import Mathlib.Data.List.ReduceOption
import PluginHost.Proofs.Path
import PluginHost.Proofs.Plugin.Attempt
import PluginHost.Proofs.Registry.Management

/-!
# Scans

What a scan looks at and in which order, and what it does with each candidate.

* **`libraryFiles_perm`**, **`libraryFiles_sorted`**: the files of a directory that are candidates.
* **`libraryCandidates`**, **`builtInCandidates`**: the sources of a scan, each with the generations
  that are tried.
* **`Probed`**, **`Scanned`**: a source is used in the first of its generations that accepts it; the
  candidates are probed in turn.
* **`Started`**: plugins are activated in turn.
* **`rescan_phases`**, **`rescan_course`**: the phases of a scan. Everything old is gone before the
  first candidate is looked at, and every candidate has been looked at before the first plugin is
  started.
-/

namespace PluginHost

open Interaction Transcript

/-- What a plugin without a session hears when it is let go of. -/
def Plugin.ending (p : Plugin) : Transcript :=
  (if p.loaded then p.heard .shutdown .shutdown () else []) ++ [⟨.plugin p.who .unload, ()⟩]

/-- A plugin without a session is shut down and released in the end. -/
theorem Plugin.ending_eq {p : Plugin} (ha : p.active = false) :
    p.closing ++ [⟨.plugin p.who .unload, ()⟩] = p.ending := by
  cases hl : p.loaded with
  | true => simp [ending, closing_of_inactive hl ha, hl]
  | false => simp [ending, closing, hl]

theorem Plugin.mapped_ending {p : Plugin} : p.ending.mapped = 0 := by
  unfold ending
  split
  · rw [Transcript.mapped_append, mapped_heard (by simp)]
    rfl
  · rfl

namespace Registry

variable {r : Registry} {p : Plugin} {t : Transcript} {fs : FileSystem}

/-! ## Candidates -/

/-- The files of a directory that are candidates. -/
theorem libraryFiles_perm (fs : FileSystem) (directory : Path) :
    (libraryFiles fs directory).Perm
      ((((fs.readDir directory).toOption.getD []).map fun n => directory.join ⟨n⟩).filter
        fun p => fs.isFile p && p.isPluginLibrary) := by
  unfold libraryFiles
  split
  · rename_i h
    simp [h, Except.toOption]
  · rename_i names h
    simpa [h, Except.toOption] using List.mergeSort_perm _ _

/-- The files of a directory come in the order of their paths. -/
theorem libraryFiles_sorted (fs : FileSystem) (directory : Path) :
    (libraryFiles fs directory).Pairwise fun a b => b.before a = false := by
  unfold libraryFiles
  split
  · exact .nil
  · exact Path.pairwise_mergeSort _

/-- The libraries that a scan looks at: the files of the system directory, then those of the user
directory, each with what can be read of it. Each may be of either generation. -/
def libraryCandidates (fs : FileSystem) (r : Registry) : List (Source × List Generation) :=
  (r.directories.system.toList.flatMap (libraryFiles fs) ++
    r.directories.user.toList.flatMap (libraryFiles fs)).map
      fun path => (.library path (fs.read path).toOption, [.current, .legacy])

theorem libraryCandidates_eq :
    libraryCandidates fs r = (candidateFiles fs r.directories).map
      fun path => (librarySource fs path, [.current, .legacy]) := by
  rw [libraryCandidates, candidateFiles, PluginDirectories.toList, List.flatMap_append]
  rfl

/-- What is part of the host, each of the generation that was declared. -/
def builtInCandidates (r : Registry) : List (Source × List Generation) :=
  r.builtIns.zipIdx.map fun b => (.builtIn b.2, [b.1.generation])

/-! ## Probing -/

/-- A source is used in the first of some generations that accepts it. -/
inductive Probed (source : Source) :
    List Generation → Ledger → Transcript → Option Plugin → Ledger → Prop
  | exhausted (l : Ledger) : Probed source [] l [] none l
  | made (g : Generation) (gs : List Generation) {l l' : Ledger} {t : Transcript} {p : Plugin}
      (h : Plugin.Attempt source g l t (some p) l') : Probed source (g :: gs) l t (some p) l'
  | next (g : Generation) {gs : List Generation} {l l' l'' : Ledger} {t u : Transcript}
      {o : Option Plugin} (h : Plugin.Attempt source g l t none l')
      (hr : Probed source gs l' u o l'') : Probed source (g :: gs) l (t ++ u) o l''

/-- Candidates are probed in turn. -/
inductive Scanned :
    List (Source × List Generation) → Ledger → Transcript → List (Option Plugin) → Ledger → Prop
  | nil (l : Ledger) : Scanned [] l [] [] l
  | cons {c : Source × List Generation} {cs : List (Source × List Generation)} {l l' l'' : Ledger}
      {t u : Transcript} {o : Option Plugin} {os : List (Option Plugin)}
      (h : Probed c.1 c.2 l t o l') (hr : Scanned cs l' u os l'') :
      Scanned (c :: cs) l (t ++ u) (o :: os) l''

/-- A library is tried as a current plugin first and as a legacy one second. -/
theorem instantiate_inv {ledger : Ledger} {path : Path} {x : Option Plugin × Ledger}
    (h : Yields (instantiate fs ledger path) t x) :
    Probed (librarySource fs path) [.current, .legacy] ledger t x.1 x.2 := by
  obtain ⟨_, _, ⟨result, l⟩, rfl, h₁, h₂⟩ := yields_bind.1 h
  have hfirst := Plugin.attempt_inv h₁
  cases result with
  | ok p =>
    obtain ⟨rfl, rfl⟩ := yields_done.1 h₂
    rw [List.append_nil]
    exact .made _ _ hfirst
  | error e =>
    -- the older interface is tried for want of the current one, whatever was wrong with that
    obtain ⟨_, _, ⟨result, l'⟩, rfl, h₃, h₄⟩ := yields_bind.1 h₂
    obtain ⟨rfl, rfl⟩ := yields_done.1 h₄
    have hsecond := Plugin.attempt_inv h₃
    refine .next _ hfirst ?_
    cases result with
    | ok p =>
      rw [List.append_nil]
      exact .made _ _ hsecond
    | error e => exact .next _ hsecond (.exhausted l')

theorem reduceOption_cons (o : Option Plugin) (os : List (Option Plugin)) :
    (o :: os).reduceOption = o.toList ++ os.reduceOption := by
  cases o <;> rfl

/-- What two scans found, one after the other, is what one scan of all the candidates finds. -/
theorem Scanned.append {cs ds : List (Source × List Generation)} {l l' l'' : Ledger}
    {u : Transcript} {os qs : List (Option Plugin)} (h : Scanned cs l t os l')
    (h' : Scanned ds l' u qs l'') : Scanned (cs ++ ds) l (t ++ u) (os ++ qs) l'' := by
  induction h with
  | nil => exact h'
  | cons hp hr ih =>
    rw [List.append_assoc]
    exact .cons hp (ih h')

/-- The library files are candidates of both generations. -/
theorem instantiateAll_inv {ledger : Ledger} {paths : List Path} {x : List Plugin × Ledger}
    (h : Yields (instantiateAll fs ledger paths) t x) :
    ∃ os, x.1 = os.reduceOption ∧
      Scanned (paths.map fun path => (librarySource fs path, [.current, .legacy]))
        ledger t os x.2 := by
  induction paths generalizing ledger t x with
  | nil =>
    obtain ⟨rfl, rfl⟩ := yields_done.1 h
    exact ⟨[], rfl, .nil _⟩
  | cons path paths ih =>
    obtain ⟨_, _, ⟨o, l⟩, rfl, h₁, h₂⟩ := yields_bind.1 h
    obtain ⟨_, _, ⟨ps, l'⟩, rfl, h₃, h₄⟩ := yields_bind.1 h₂
    obtain ⟨rfl, rfl⟩ := yields_done.1 h₄
    obtain ⟨os, hos, hscan⟩ := ih h₃
    rw [List.append_nil]
    refine ⟨o :: os, ?_, .cons (instantiate_inv h₁) hscan⟩
    rw [reduceOption_cons, ← hos]

/-- A built-in plugin is a candidate of its own generation. -/
theorem instantiateBuiltIns_inv {ledger : Ledger} {index : Nat} {bs : List BuiltIn}
    {x : List Plugin × Ledger} (h : Yields (instantiateBuiltIns index ledger bs) t x) :
    ∃ os, x.1 = os.reduceOption ∧
      Scanned ((bs.zipIdx index).map fun b => (.builtIn b.2, [b.1.generation]))
        ledger t os x.2 := by
  induction bs generalizing ledger t x index with
  | nil =>
    obtain ⟨rfl, rfl⟩ := yields_done.1 h
    exact ⟨[], rfl, .nil _⟩
  | cons b bs ih =>
    obtain ⟨_, _, ⟨result, l⟩, rfl, h₁, h₂⟩ := yields_bind.1 h
    obtain ⟨_, _, ⟨ps, l'⟩, rfl, h₃, h₄⟩ := yields_bind.1 h₂
    obtain ⟨rfl, rfl⟩ := yields_done.1 h₄
    obtain ⟨os, hos, hscan⟩ := ih h₃
    have hfirst := Plugin.attempt_inv h₁
    rw [List.append_nil]
    refine ⟨result.toOption :: os, ?_, .cons ?_ hscan⟩
    · rw [reduceOption_cons, ← hos]
    · cases result with
      | ok p => exact .made _ _ hfirst
      | error e =>
        have hnone : Probed (.builtIn index) [b.generation] ledger _ none l :=
          .next _ hfirst (.exhausted l)
        rwa [List.append_nil] at hnone

section

variable {source : Source} {gs : List Generation} {cs : List (Source × List Generation)}
  {l l' : Ledger} {o : Option Plugin} {os : List (Option Plugin)} {n : Nat}

/-- Whoever a scan finds is sound and not loaded yet. -/
theorem Probed.born (h : Probed source gs l t (some p) l') : p.Sound ∧ p.loaded = false := by
  generalize ho : some p = o at h
  induction h with
  | exhausted => simp at ho
  | made g gs h =>
    obtain rfl := Option.some.inj ho
    exact ⟨h.born.sound, h.born.unloaded⟩
  | next g h hr ih => exact ih ho

/-- Whoever a scan finds comes from the source and is of a generation that was tried. -/
theorem Probed.source_eq (h : Probed source gs l t (some p) l') :
    p.who.source = source ∧ p.generation ∈ gs := by
  generalize ho : some p = o at h
  induction h with
  | exhausted => simp at ho
  | made g gs h =>
    obtain rfl := Option.some.inj ho
    obtain ⟨hsource, hg⟩ := h.source_eq
    exact ⟨hsource, by simp [hg]⟩
  | next g h hr ih =>
    obtain ⟨hsource, hg⟩ := ih ho
    exact ⟨hsource, List.mem_cons_of_mem g hg⟩

/-- Of each candidate comes one plugin at most, of a generation that was tried. -/
theorem Scanned.forall₂ (h : Scanned cs l t os l') :
    List.Forall₂ (fun c o => ∀ p ∈ o, p.who.source = c.1 ∧ p.generation ∈ c.2) cs os := by
  induction h with
  | nil => exact .nil
  | cons h hr ih =>
    refine .cons (fun p hp => ?_) ih
    obtain rfl := Option.mem_def.1 hp
    exact h.source_eq

/-- A scan of several candidates falls apart into scans of their parts. -/
theorem Scanned.split {ds : List (Source × List Generation)} (h : Scanned (cs ++ ds) l t os l') :
    ∃ m t₁ t₂ os₁ os₂, t = t₁ ++ t₂ ∧ os = os₁ ++ os₂ ∧ Scanned cs l t₁ os₁ m ∧
      Scanned ds m t₂ os₂ l' := by
  induction cs generalizing l t os with
  | nil => exact ⟨l, [], t, [], os, rfl, rfl, .nil l, h⟩
  | cons c cs ih =>
    cases h with
    | @cons _ _ _ _ _ t₀ _ o _ h hr =>
      obtain ⟨m, t₁, t₂, os₁, os₂, rfl, rfl, h₁, h₂⟩ := ih hr
      exact ⟨m, t₀ ++ t₁, t₂, o :: os₁, os₂, by simp, rfl, .cons h h₁, h₂⟩

/-- Where there is code for every candidate and one generation to be tried, code is mapped once for
each. -/
theorem Scanned.mapped_eq (h : Scanned cs l t os l') (hcs : ∀ c ∈ cs, ∃ g, c.2 = [g])
    (hload : ∀ who, (⟨.plugin who .load, none⟩ : Exchange) ∉ t) : t.mapped = cs.length := by
  induction h with
  | nil => rfl
  | @cons c cs l l' l'' t u o os h hr ih =>
    obtain ⟨⟨g, hg⟩, hcs⟩ := List.forall_mem_cons.1 hcs
    have hrest := ih hcs fun who hmem => hload who (List.mem_append_right t hmem)
    have hone : t.mapped = 1 := by
      have hload₁ : ∀ who, (⟨.plugin who .load, none⟩ : Exchange) ∉ t :=
        fun who hmem => hload who (List.mem_append_left u hmem)
      rw [hg] at h
      cases h with
      | made _ _ h => exact h.mapped_eq hload₁
      | next _ h hnone =>
        cases hnone
        rw [List.append_nil] at hload₁ ⊢
        exact h.mapped_eq hload₁
    rw [Transcript.mapped_append, hone, hrest, List.length_cons, Nat.add_comm]

/-- Whoever is found has not been started. -/
theorem Scanned.born (h : Scanned cs l t os l') :
    ∀ p ∈ os.reduceOption, p.Sound ∧ p.loaded = false := by
  intro p hp
  rw [List.reduceOption_mem_iff] at hp
  induction h with
  | nil => simp at hp
  | cons h hr ih =>
    rcases List.mem_cons.1 hp with rfl | hp
    · exact h.born
    · exact ih hp

end

/-! ## Starting -/

/-- Plugins are activated in turn. -/
inductive Started (allowed : Bool) :
    List Plugin → Transcript → List (Except PluginError Status × Plugin) → Prop
  | nil : Started allowed [] [] []
  | cons {p : Plugin} {ps : List Plugin} {t u : Transcript} {x : Except PluginError Status × Plugin}
      {xs : List (Except PluginError Status × Plugin)} (h : p.Activated allowed t x)
      (hr : Started allowed ps u xs) : Started allowed (p :: ps) (t ++ u) (x :: xs)

/-- Plugins are started in turn, each with its own result. -/
theorem activateAll_inv {allowed : Bool} {ps qs : List Plugin} (hs : ∀ p ∈ ps, p.Sound)
    (h : Yields (activateAll allowed ps) t qs) :
    ∃ xs, qs = xs.map (·.2) ∧ Started allowed ps t xs := by
  induction ps generalizing t qs with
  | nil =>
    obtain ⟨rfl, rfl⟩ := yields_traverse_nil.1 h
    exact ⟨[], rfl, .nil⟩
  | cons p ps ih =>
    obtain ⟨u, v, q, qs, rfl, rfl, h₁, h₂⟩ := yields_traverse_cons.1 h
    obtain ⟨x, rfl, h₃⟩ := yields_map.1 h₁
    obtain ⟨xs, rfl, hstart⟩ := ih (fun q hq => hs q (List.mem_cons_of_mem p hq)) h₂
    exact ⟨x :: xs, rfl, .cons (Plugin.activate_inv (hs p (by simp)) h₃) hstart⟩

/-- A plugin that was activated is the same plugin, perhaps with other flags. -/
theorem Started.map_eq {α : Type} {allowed : Bool} {ps : List Plugin}
    {xs : List (Except PluginError Status × Plugin)} (h : Started allowed ps t xs) (f : Plugin → α)
    (hf : ∀ p : Plugin, f { p with loaded := true, enabled := allowed } = f p) :
    (xs.map (·.2)).map f = ps.map f := by
  rw [List.map_map]
  induction h with
  | nil => rfl
  | cons h hr ih =>
    rw [List.map_cons, List.map_cons, ih]
    congr 1
    cases h <;> first | rfl | exact hf _

/-- A plugin that was activated was found, and it is still the same. -/
theorem Started.exists_found {allowed : Bool} {ps : List Plugin}
    {xs : List (Except PluginError Status × Plugin)} (h : Started allowed ps t xs) {q : Plugin}
    (hq : q ∈ xs.map (·.2)) : ∃ p ∈ ps, q.newborn = p.newborn ∧ q.who = p.who ∧ q.id = p.id := by
  have hsame := h.map_eq (fun p => (p.newborn, p.who, p.id)) fun _ => rfl
  have hmem : (q.newborn, q.who, q.id) ∈ ps.map fun p => (p.newborn, p.who, p.id) :=
    hsame ▸ List.mem_map_of_mem (f := fun p : Plugin => (p.newborn, p.who, p.id)) hq
  obtain ⟨p, hp, he⟩ := List.mem_map.1 hmem
  simp only [Prod.mk.injEq] at he
  exact ⟨p, hp, he.1.symm, he.2.1.symm, he.2.2.symm⟩

theorem Started.mapped {allowed : Bool} {ps : List Plugin}
    {xs : List (Except PluginError Status × Plugin)} (h : Started allowed ps t xs) :
    t.mapped = 0 := by
  induction h with
  | nil => rfl
  | cons h hr ih => rw [Transcript.mapped_append, h.mapped, ih]

/-! ## Phases -/

/-- Plugins without a session end one after the other. -/
theorem dropAll_inv {ps : List Plugin} {x : Unit} (hs : ∀ p ∈ ps, p.Sound ∧ p.active = false)
    (h : Yields (dropAll ps) t x) : t = ps.flatMap Plugin.ending := by
  induction ps generalizing t with
  | nil => exact (yields_done.1 h).1
  | cons p ps ih =>
    obtain ⟨u, v, _, rfl, h₁, h₂⟩ := yields_bind.1 h
    obtain ⟨⟨hp, ha⟩, hs⟩ := List.forall_mem_cons.1 hs
    rw [Plugin.drop_inv h₁, Plugin.ending_eq ha, ih hs h₂, List.flatMap_cons]

/-- Everybody is let go of, and the session of the provider ends before that. -/
def clearing (r : Registry) : Transcript :=
  (match r.providing? with
    | some p => p.parting
    | none => []) ++ r.plugins.flatMap Plugin.ending

theorem mapped_endings {ps : List Plugin} :
    Transcript.mapped (ps.flatMap Plugin.ending) = 0 := by
  induction ps with
  | nil => rfl
  | cons p ps ih => rw [List.flatMap_cons, Transcript.mapped_append, Plugin.mapped_ending, ih]

theorem mapped_clearing : r.clearing.mapped = 0 := by
  unfold clearing
  rw [Transcript.mapped_append, mapped_endings]
  split
  · exact Plugin.mapped_parting
  · rfl

/-- **How a registry is cleared.** The provider stops first, then the plugins end in their order. -/
theorem clearing_inv {o : Roster} {u : Transcript} {x : Unit} (hc : r.Consistent)
    (h₁ : Yields r.roster.release t o) (h₂ : Yields (dropAll o.plugins) u x) :
    t ++ u = r.clearing := by
  obtain ⟨hs, hn⟩ := Roster.release_steps hc.roster h₁
  have hco := hs.consistent hc.roster
  have hidle : ∀ p ∈ o.plugins, p.Sound ∧ p.active = false := fun p hp =>
    ⟨hco.sound p hp, by simpa [hn] using hco.held p hp⟩
  rw [dropAll_inv hidle h₂]
  unfold Roster.release at h₁
  unfold clearing providing?
  split at h₁
  · rename_i hp
    obtain ⟨rfl, rfl⟩ := yields_done.1 h₁
    rw [hp]
    rfl
  · rename_i p hp
    obtain ⟨_, _, q, rfl, h₃, h₄⟩ := yields_bind.1 h₁
    obtain ⟨rfl, rfl⟩ := yields_done.1 h₄
    obtain ⟨rfl, rfl⟩ := Plugin.stopPositional_inv h₃
    obtain ⟨hmem, ha⟩ := hc.roster.providing?_eq_some.1 hp
    rw [hp, Plugin.farewell_of_active ha, List.append_nil]
    -- that the session is over makes no difference to how the provider is let go of
    have hsame : ∀ q ∈ r.plugins,
        (if q.handle = p.handle then { p with active := false } else q).ending = q.ending := by
      intro q hq
      split
      · rename_i he
        obtain rfl := hc.roster.eq_of_handle_eq hq hmem he
        rfl
      · rfl
    simp only [Roster.update, List.flatMap_map]
    exact congrArg (p.parting ++ ·) (List.flatMap_congr hsame)

/-- The files and what is part of the host make up one scan. -/
theorem scanned_of_yields {ps : List Path} {libraries hosted : List Plugin} {l l' l'' : Ledger}
    {u : Transcript} (h : Yields (instantiateAll fs l ps) t (libraries, l'))
    (h' : Yields (instantiateBuiltIns 0 l' r.builtIns) u (hosted, l'')) :
    ∃ os, os.reduceOption = libraries ++ hosted ∧
      Scanned
        (ps.map (fun path => (librarySource fs path, [.current, .legacy])) ++ builtInCandidates r)
        l (t ++ u) os l'' := by
  obtain ⟨os, hos, hlibs⟩ := instantiateAll_inv h
  obtain ⟨qs, hqs, hhost⟩ := instantiateBuiltIns_inv h'
  dsimp only at hos hqs hlibs hhost
  refine ⟨os ++ qs, ?_, hlibs.append hhost⟩
  rw [List.reduceOption_append, ← hos, ← hqs]

/-- First everybody is let go of, then the libraries are tried and what is part of the host, then
whoever was found is started, and last the plugins go that share their identity with a later one. -/
theorem rescan_phases {x : Nat × Registry} (hc : r.Consistent) (h : Yields (rescan fs r) t x) :
    ∃ t₁ t₂ t₃ t₄ libraries l hosted l' xs, t = r.clearing ++ (t₁ ++ t₂ ++ (t₃ ++ t₄)) ∧
      Yields (instantiateAll fs r.ledger (candidateFiles fs r.directories)) t₁ (libraries, l) ∧
      Yields (instantiateBuiltIns 0 l r.builtIns) t₂ (hosted, l') ∧
      Started r.positionalDefault (libraries ++ hosted) t₃ xs ∧
      Yields (dropAll (displaced (xs.map (·.2)))) t₄ () ∧
      x = (xs.length, { r with
        ledger := l', roster := ⟨latest (xs.map (·.2)), none⟩, snapshot := .zeroed }) := by
  obtain ⟨t₁, _, o, rfl, h₁, h⟩ := yields_bind.1 h
  obtain ⟨t₂, _, _, rfl, h₂, h⟩ := yields_bind.1 h
  obtain ⟨t₃, _, ⟨libraries, l⟩, rfl, h₃, h⟩ := yields_bind.1 h
  obtain ⟨t₄, _, ⟨hosted, l'⟩, rfl, h₄, h⟩ := yields_bind.1 h
  obtain ⟨t₅, _, found, rfl, h₅, h⟩ := yields_bind.1 h
  obtain ⟨t₆, _, _, rfl, h₆, h⟩ := yields_bind.1 h
  obtain ⟨rfl, rfl⟩ := yields_done.1 h
  obtain ⟨os, hfound, hscan⟩ := scanned_of_yields h₃ h₄
  obtain ⟨xs, rfl, hstart⟩ := activateAll_inv
    (fun p hp => (hscan.born p (by rwa [hfound])).1) h₅
  refine ⟨t₃, t₄, t₅, t₆, libraries, l, hosted, l', xs, ?_, h₃, h₄, hstart, h₆, by simp⟩
  rw [← clearing_inv hc h₁ h₂]
  simp

/-- The libraries and what is part of the host are probed in one scan. -/
theorem rescan_course {x : Nat × Registry} (hc : r.Consistent) (h : Yields (rescan fs r) t x) :
    ∃ t₁ t₂ t₃ l os xs, t = r.clearing ++ (t₁ ++ (t₂ ++ t₃)) ∧
      Scanned (libraryCandidates fs r ++ builtInCandidates r) r.ledger t₁ os l ∧
      Started r.positionalDefault os.reduceOption t₂ xs ∧
      Yields (dropAll (displaced (xs.map (·.2)))) t₃ () ∧
      x = (xs.length, { r with
        ledger := l, roster := ⟨latest (xs.map (·.2)), none⟩, snapshot := .zeroed }) := by
  obtain ⟨t₁, t₂, t₃, t₄, _, _, _, l', xs, ht, h₁, h₂, hstart, hdrop, hx⟩ := rescan_phases hc h
  obtain ⟨os, hfound, hscan⟩ := scanned_of_yields h₁ h₂
  rw [← libraryCandidates_eq] at hscan
  exact ⟨t₁ ++ t₂, t₃, t₄, l', os, xs, ht, hscan, by rwa [hfound], hdrop, hx⟩

end Registry

end PluginHost
