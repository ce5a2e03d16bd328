import PluginHost.Proofs.Registry.Notes
import PluginHost.Proofs.Registry.Rescan

/-!
# Whether identities are unique

Everything whose code is mapped gets an identity, also what turns out to be no plugin. They are all
different until the last identity has been handed out, and from then on everything gets the last
one.

* **`Transcript.newcomers`**, **`IdAllocator.assign`**: who came to be, and the identities for them.
* **`assign_getElem`**: who comes later gets the identity that is one more, up to the last one.
  **`assign_pairwise_iff`**: no identity is assigned twice iff there are enough of them.
* **`Issued`**: what is assigned while a part of the ledger is spent. **`Follows.issued`**: every
  history assigns identities in this way.
* **`identities_unique_iff`**: when identities are unique, and when a scan counts what it registers.
* **`identities_collide`**: a history in which they are not, and it does not.
-/

namespace PluginHost

open Interaction Transcript

/-- Whoever is behind the code that the loader mapped. -/
def Exchange.newcomer? : Exchange → Option Occupant
  | ⟨.plugin who .load, some _⟩ => some who
  | _ => none

/-- Whoever came to be, in this order, a plugin or not. -/
def Transcript.newcomers (t : Transcript) : List Occupant := t.filterMap Exchange.newcomer?

@[simp] theorem Transcript.newcomers_append (t u : Transcript) :
    Transcript.newcomers (t ++ u) = t.newcomers ++ u.newcomers := List.filterMap_append

/-- A newcomer is a plugin whose code was mapped. -/
theorem Exchange.isSome_newcomer? (e : Exchange) : e.newcomer?.isSome = e.isMapped := by
  obtain ⟨q, reply⟩ := e
  cases q with
  | plugin who c =>
    cases c with
    | load => cases reply <;> rfl
    | _ => rfl
  | _ => rfl

theorem Transcript.length_newcomers (t : Transcript) : t.newcomers.length = t.mapped := by
  induction t with
  | nil => rfl
  | cons e t ih =>
    rw [mapped_cons, ← ih, ← e.isSome_newcomer?, newcomers, List.filterMap_cons]
    cases e.newcomer? <;> rfl

theorem Transcript.newcomers_eq_nil {t : Transcript} (h : t.mapped = 0) : t.newcomers = [] :=
  List.eq_nil_of_length_eq_zero (t.length_newcomers.trans h)

/-! ## Assigned identities -/

namespace IdAllocator

/-- What is left after so many identities. -/
def after (a : IdAllocator) : Nat → IdAllocator
  | 0 => a
  | n + 1 => a.allocate.2.after n

/-- Each in turn with the identity that comes next. -/
def assign (a : IdAllocator) : List Occupant → List (Occupant × PluginId)
  | [] => []
  | who :: whos => (who, a.allocate.1) :: a.allocate.2.assign whos

variable {a : IdAllocator} {whos more : List Occupant} {n k : Nat}

/-- Identities are taken one after the other. -/
theorem after_add (a : IdAllocator) (m n : Nat) : a.after (m + n) = (a.after m).after n := by
  induction m generalizing a with
  | zero => rw [Nat.zero_add]; rfl
  | succ m ih =>
    rw [Nat.add_right_comm]
    exact ih _

@[simp] theorem length_assign : (a.assign whos).length = whos.length := by
  induction whos generalizing a with
  | nil => rfl
  | cons who whos ih => rw [assign, List.length_cons, ih, List.length_cons]

/-- Identities are given out one after the other. -/
theorem assign_append :
    a.assign (whos ++ more) = a.assign whos ++ (a.after whos.length).assign more := by
  induction whos generalizing a with
  | nil => rfl
  | cons who whos ih =>
    rw [List.cons_append, assign, assign, ih, List.cons_append]
    rfl

/-- The identity that comes next if so many were handed out before. -/
theorem assign_getElem (ha : a.next.toNat = min (n + 1) lastId.toNat)
    (hk : k < (a.assign whos).length) :
    ((a.assign whos)[k]).2.toNat = min (n + k + 1) lastId.toNat := by
  induction whos generalizing a n k with
  | nil => cases hk
  | cons who whos ih =>
    cases k with
    | zero => exact ha
    | succ k =>
      have hnext := Ledger.Counts.allocateId (l := ⟨a, 0⟩) ha
      have hrest := ih (a := a.allocate.2) (k := k) hnext (by simpa [assign] using hk)
      rw [show n + (k + 1) + 1 = n + 1 + k + 1 by omega]
      exact hrest

/-- From a new allocator, the identities count from one and stay at the last. -/
theorem initial_getElem (hk : k < (initial.assign whos).length) :
    ((initial.assign whos)[k]).2.toNat = min (k + 1) lastId.toNat := by
  have h := assign_getElem (a := initial) (n := 0) Ledger.counts_initial hk
  rwa [Nat.zero_add] at h

/-- The identities are handed out in their order. -/
theorem assign_precedes (whos : List Occupant) :
    (initial.assign whos).Pairwise fun x y => Precedes x.2 y.2 := by
  rw [List.pairwise_iff_getElem]
  intro i j hi hj hij
  have hfirst := initial_getElem hi
  have hsecond := initial_getElem hj
  by_cases hlast : lastId.toNat ≤ i + 1
  · exact .inr ⟨UInt32.toNat_inj.1 (by omega), UInt32.toNat_inj.1 (by omega)⟩
  · exact .inl (UInt32.lt_iff_toNat_lt.2 (by omega))

/-- Whatever holds of a smaller and a greater identity but not of the last one and itself tells
whether there were enough of them. -/
theorem assign_pairwise_iff {R : PluginId → PluginId → Prop} (hlt : ∀ i j, i < j → R i j)
    (hlast : ¬R lastId lastId) :
    (initial.assign whos).Pairwise (fun x y => R x.2 y.2) ↔ whos.length ≤ lastId.toNat := by
  rw [List.pairwise_iff_getElem]
  constructor
  · intro h
    by_contra hmany
    -- the last identity, and the one that comes after it
    have hi : lastId.toNat - 1 < (initial.assign whos).length := by
      rw [length_assign]
      omega
    have hj : lastId.toNat < (initial.assign whos).length := by
      rw [length_assign]
      omega
    have hfirst : ((initial.assign whos)[lastId.toNat - 1]).2 = lastId :=
      UInt32.toNat_inj.1 (by rw [initial_getElem hi]; decide)
    have hsecond : ((initial.assign whos)[lastId.toNat]).2 = lastId :=
      UInt32.toNat_inj.1 (by rw [initial_getElem hj]; decide)
    have hrel := h _ _ hi hj (by decide)
    rw [hfirst, hsecond] at hrel
    exact hlast hrel
  · intro hfew i j hi hj hij
    rw [length_assign] at hi hj
    refine hlt _ _ (UInt32.lt_iff_toNat_lt.2 ?_)
    rw [initial_getElem, initial_getElem]
    omega

end IdAllocator

/-! ## What a history assigns -/

/-- Who it is, and its identity. -/
def Plugin.card (p : Plugin) : Occupant × PluginId := (p.who, p.id)

@[simp] theorem Plugin.card_newborn {p : Plugin} : p.newborn.card = p.card := by simp [card]

namespace Registry

variable {source : Source} {gs : List Generation} {cs : List (Source × List Generation)}
  {l l' l'' : Ledger} {o : Option Plugin} {os : List (Option Plugin)} {t u : Transcript}
  {ps qs : List Plugin} {r s : Registry} {h : History} {fs : FileSystem} {x : Nat × Registry}

/-- While a part of the ledger is spent everybody who comes to be is assigned the next identity, the
plugins among them in their order. -/
structure Issued (l : Ledger) (t : Transcript) (l' : Ledger) (ps : List Plugin) : Prop where
  ids_eq : l'.ids = l.ids.after t.newcomers.length
  sublist : (ps.map Plugin.card).Sublist (l.ids.assign t.newcomers)

theorem Issued.of_silent (ht : t.mapped = 0) : Issued l t l [] where
  ids_eq := by rw [Transcript.newcomers_eq_nil ht]; rfl
  sublist := List.nil_sublist _

/-- What is issued in turn adds up. -/
theorem Issued.append (h : Issued l t l' ps) (h' : Issued l' u l'' qs) :
    Issued l (t ++ u) l'' (ps ++ qs) where
  ids_eq := by
    rw [Transcript.newcomers_append, List.length_append, IdAllocator.after_add, ← h.ids_eq]
    exact h'.ids_eq
  sublist := by
    rw [Transcript.newcomers_append, IdAllocator.assign_append, ← h.ids_eq, List.map_append]
    exact h.sublist.append h'.sublist

/-- Only those who are registered need to be issued for. -/
theorem Issued.mono (h : Issued l t l' ps)
    (hsub : (qs.map Plugin.card).Sublist (ps.map Plugin.card)) :
    Issued l t l' qs := ⟨h.ids_eq, hsub.trans h.sublist⟩

theorem Issued.then_silent (h : Issued l t l' ps) (hu : u.mapped = 0) :
    Issued l (t ++ u) l' ps := by
  simpa using h.append (.of_silent hu)

/-- An attempt issues one identity to the plugin whose code was mapped, whether it is valid or
not. -/
theorem attempt_issued {g : Generation} (h : Plugin.Attempt source g l t o l') :
    Issued l t l' o.toList := by
  cases h with
  | unmapped => exact ⟨rfl, List.nil_sublist _⟩
  | refused table u hu hg =>
    have hsilent : Transcript.mapped (u ++ [⟨.plugin ⟨l.nextHandle, source⟩ .unload, ()⟩]) = 0 := by
      rw [Transcript.mapped_append, hu.mapped]
      rfl
    have hone : Issued l [⟨.plugin ⟨l.nextHandle, source⟩ .load, some table⟩]
        l.newHandle.2.allocateId.2 [] := ⟨rfl, List.nil_sublist _⟩
    exact hone.then_silent hsilent
  | made table u p hu hg hb hw hi hp =>
    have hone : Issued l [⟨.plugin ⟨l.nextHandle, source⟩ .load, some table⟩]
        l.newHandle.2.allocateId.2 [p] := by
      refine ⟨rfl, ?_⟩
      have hcard : p.card = (⟨l.nextHandle, source⟩, l.ids.allocate.1) := by
        rw [Plugin.card, hw, hi]
        rfl
      rw [List.map_singleton, hcard]
      exact .refl _
    exact hone.then_silent hu.mapped

/-- The same for a source that is tried as one generation after another. -/
theorem Probed.issued (h : Probed source gs l t o l') : Issued l t l' o.toList := by
  induction h with
  | exhausted => exact .of_silent rfl
  | made g gs h => exact attempt_issued h
  | next g h hr ih => exact (attempt_issued h).append ih

/-- The same for all candidates of a scan. -/
theorem Scanned.issued (h : Scanned cs l t os l') : Issued l t l' os.reduceOption := by
  induction h with
  | nil => exact .of_silent rfl
  | cons h hr ih =>
    rw [reduceOption_cons]
    exact h.issued.append ih

/-- A scan registers the last plugin of each identity among those that it found. -/
theorem rescan_issued (hc : r.Consistent) (hx : Yields (rescan fs r) t x) : ∃ found : List Plugin,
    x.1 = found.length ∧ x.2.plugins = latest found ∧ Issued r.ledger t x.2.ledger found := by
  obtain ⟨t₁, t₂, t₃, l, os, xs, rfl, hscan, hstart, hdrop, rfl⟩ := rescan_course hc hx
  refine ⟨xs.map (·.2), by simp, rfl, ?_⟩
  have hsilent : Transcript.mapped (t₂ ++ t₃) = 0 := by
    rw [Transcript.mapped_append, hstart.mapped, asks_dropAll.mapped (by decide) hdrop]
  have hsame := hstart.map_eq Plugin.card fun _ => rfl
  have hbefore : Issued r.ledger r.clearing r.ledger [] := .of_silent mapped_clearing
  refine hbefore.append ((hscan.issued.then_silent hsilent).mono ?_)
  rw [hsame]

/-- **Identities are issued in the order of the mappings**, over every history. Only a scan maps
code. -/
theorem Follows.issued {directories : PluginDirectories} (hf : (new directories).Follows h r) :
    Issued .initial h.transcript r.ledger r.plugins := by
  induction hf with
  | nil => exact .of_silent rfl
  | @snoc h r s op t hf hp ih =>
    have htr : History.transcript (h ++ [(op, t)]) = h.transcript ++ t := by
      simp [History.transcript]
    have hc := hf.consistent (consistent_new directories)
    rw [htr]
    by_cases hop : ∃ fs, op = .rescan fs
    · obtain ⟨fs, rfl⟩ := hop
      obtain ⟨x, rfl, hx⟩ := yields_map.1 hp
      obtain ⟨found, -, hlatest, hfound⟩ := rescan_issued hc hx
      -- whoever was registered before is gone
      have hgone : Issued .initial h.transcript r.ledger [] := ih.mono (List.nil_sublist _)
      refine (hgone.append hfound).mono ?_
      rw [hlatest]
      exact (latest_sublist found).map _
    · have hop' : ∀ fs, op ≠ .rescan fs := fun fs e => hop ⟨fs, e⟩
      have hl := perform_ledger hop' hp
      have hkept := (perform_inv hc hp).newborns hc (by rw [hl])
      rw [hl]
      refine (ih.then_silent (perform_mapped hop' hp)).mono ?_
      have hcards := hkept.map Plugin.card
      simpa [Function.comp_def] using hcards

/-! ## What a scan counts -/

/-- Plugins in the order of their identities have different ones iff at most one has the last. -/
theorem sorted_iff_countP (h : ps.Pairwise fun p q => Precedes p.id q.id) :
    (ps.Pairwise fun p q => p.id < q.id) ↔ ps.countP (·.id == lastId) ≤ 1 := by
  induction h with
  | nil => simp
  | @cons p ps hp h ih =>
    rw [List.pairwise_cons, ih, List.countP_cons]
    by_cases hlast : p.id = lastId
    · -- whoever comes after the last identity has it as well
      have hnone : (∀ q ∈ ps, p.id < q.id) ↔ ps.countP (·.id == lastId) = 0 := by
        rw [List.countP_eq_zero]
        refine forall₂_congr fun q hq => ?_
        rcases hp q hq with hlt | ⟨-, hq'⟩
        · have hne : q.id ≠ lastId := hlast ▸ (UInt32.ne_of_lt hlt).symm
          simp [hlt, hne]
        · simp [hlast, hq']
      rw [hnone, if_pos (by simp [hlast])]
      omega
    · have hall : ∀ q ∈ ps, p.id < q.id := fun q hq =>
        (hp q hq).resolve_right fun hq => hlast hq.1
      rw [if_neg (by simp [hlast]), Nat.add_zero]
      exact and_iff_right hall

/-- The number of plugins that were found is the number of those that are registered, and each of
them is found under its identity, iff no identity belongs to two of them. -/
theorem counted_iff {found : List Plugin} (hs : s.plugins = latest found)
    (hsorted : found.Pairwise fun p q => Precedes p.id q.id) :
    (found.length = s.size ∧ ∀ p ∈ found, s.byId? p.id = some p) ↔
      found.countP (·.id == lastId) ≤ 1 := by
  rw [← sorted_iff_countP hsorted, size, hs]
  constructor
  · rintro ⟨hlength, -⟩
    rw [← (latest_sublist found).eq_of_length hlength.symm]
    exact latest_sorted hsorted
  · intro hlt
    obtain ⟨hall, -⟩ := latest_eq_self hlt
    have hids : (s.plugins.map (·.id)).Nodup := by
      rw [hs, hall, List.Nodup, List.pairwise_map]
      exact hlt.imp UInt32.ne_of_lt
    refine ⟨by rw [hall], fun p hp => (Roster.byId?_eq_some hids).2 ⟨?_, rfl⟩⟩
    change p ∈ s.plugins
    rwa [hs, hall]

/-! ## Too many scans -/

/-- Where all code that is asked for is there and exports what is mandatory, every candidate of the
current interface is found. -/
theorem Scanned.length_found (h : Scanned cs l t os l') (hcs : ∀ c ∈ cs, c.2 = [.current])
    (hload : ∀ who reply, (⟨.plugin who .load, reply⟩ : Exchange) ∈ t →
      ∃ table, reply = some table ∧ ∀ e ∈ EntryPoint.mandatory,
        (Plugin.labelled who.source table).exports e.symbol = true) :
    os.reduceOption.length = cs.length := by
  induction h with
  | nil => rfl
  | @cons c cs l l' l'' t u o os h hr ih =>
    obtain ⟨hc, hcs⟩ := List.forall_mem_cons.1 hcs
    have hrest := ih hcs fun who reply hmem => hload who reply (List.mem_append_right t hmem)
    have hone : o.toList.length = 1 := by
      rw [hc] at h
      cases h with
      | made _ _ h => rfl
      | next _ h hnone =>
        cases h with
        | unmapped =>
          obtain ⟨_, he, -⟩ := hload ⟨l.nextHandle, c.1⟩ none (by simp)
          cases he
        | refused table v hv hg =>
          obtain ⟨_, he, htable⟩ := hload ⟨l.nextHandle, c.1⟩ (some table) (by simp)
          cases he
          exact absurd htable hg
    rw [reduceOption_cons, List.length_append, hone, hrest, List.length_cons, Nat.add_comm]

end Registry

namespace Duo

open Registry

variable {r : Registry} {n : Nat}

/-- Both plugins are registered. -/
def registered : List Operation :=
  [.registerBuiltIn ⟨"first", .current⟩, .registerBuiltIn ⟨"second", .current⟩]

/-- After that they are looked for so many times. -/
def scans (n : Nat) : List Operation := registered ++ List.replicate n (.rescan ⟨[], []⟩)

/-- There are no libraries to be found, and everything that is part of the host is of the current
interface. -/
structure Bare (r : Registry) : Prop where
  consistent : r.Consistent
  directories : r.directories = ⟨none, none⟩
  current : ∀ b ∈ r.builtIns, b.generation = .current

theorem Bare.libraryCandidates_eq (h : Bare r) : libraryCandidates ⟨[], []⟩ r = [] := by
  simp [libraryCandidates, h.directories]

theorem Bare.current_of_mem (h : Bare r) : ∀ c ∈ builtInCandidates r, c.2 = [.current] := by
  intro c hc
  obtain ⟨b, hb, rfl⟩ := List.mem_map.1 hc
  rw [h.current b.1 (List.fst_mem_of_mem_zipIdx hb)]

/-- The code of each is mapped, and each is found to be a plugin. -/
theorem Bare.scanned (h : Bare r) {l l' : Ledger} {t : Transcript} {os : List (Option Plugin)}
    (hscan : Scanned (builtInCandidates r) l t os l')
    (ht : ∀ who reply, (⟨.plugin who .load, reply⟩ : Exchange) ∈ t → reply = some table) :
    t.mapped = r.builtIns.length ∧ os.reduceOption.length = r.builtIns.length := by
  have hcount : (builtInCandidates r).length = r.builtIns.length := by simp [builtInCandidates]
  have htable : ∀ e ∈ EntryPoint.mandatory, table.exports e.symbol = true := by decide
  rw [← hcount]
  constructor
  · refine hscan.mapped_eq (fun c hc => ⟨_, h.current_of_mem c hc⟩) fun who hmem => ?_
    cases ht who none hmem
  · refine hscan.length_found h.current_of_mem fun who reply hmem => ⟨table, ht who reply hmem, ?_⟩
    simpa only [Plugin.exports_labelled] using htable

/-- A scan finds everything that is part of the host. -/
theorem Bare.rescan (h : Bare r) {t : Transcript} {x : Nat × Registry}
    (hx : Yields (rescan ⟨[], []⟩ r) t x)
    (ht : ∀ q reply, ⟨q, reply⟩ ∈ t → reply = answer .zero q) :
    t.mapped = r.builtIns.length ∧ x.1 = r.builtIns.length ∧ x.2.builtIns = r.builtIns ∧
      Bare x.2 := by
  have hperformed : Yields ((Operation.rescan ⟨[], []⟩).perform r) t x.2 :=
    yields_map.2 ⟨x, rfl, hx⟩
  have hconsistent := (perform_inv h.consistent hperformed).consistent h.consistent
  obtain ⟨t₁, t₂, t₃, l, os, xs, rfl, hscan, hstart, hdrop, rfl⟩ := rescan_course h.consistent hx
  rw [h.libraryCandidates_eq, List.nil_append] at hscan
  obtain ⟨hmapped, hfound⟩ := h.scanned hscan fun who reply hmem => ht _ _ (by simp [hmem])
  have hstarted : xs.length = os.reduceOption.length := by
    simpa using congrArg List.length (hstart.map_eq Plugin.card fun _ => rfl)
  have hdropped : t₃.mapped = 0 := asks_dropAll.mapped (by decide) hdrop
  refine ⟨?_, hstarted.trans hfound, rfl, ⟨hconsistent, h.directories, h.current⟩⟩
  simp [hmapped, mapped_clearing, hstart.mapped, hdropped]

/-- Every one of the scans takes an identity for each of the plugins. -/
theorem Bare.record (h : Bare r) (n : Nat) :
    let x := r.record (answer .zero) (List.replicate n (.rescan ⟨[], []⟩))
    x.1.transcript.mapped = n * r.builtIns.length ∧ x.2.builtIns = r.builtIns ∧ Bare x.2 := by
  induction n generalizing r with
  | zero => exact ⟨by simp [Registry.record, History.transcript], rfl, h⟩
  | succ n ih =>
    let y := ((Operation.rescan ⟨[], []⟩).perform r).record (answer .zero)
    obtain ⟨x, hx, hyields⟩ : ∃ x : Nat × Registry, y.2 = x.2 ∧
        Yields (Registry.rescan ⟨[], []⟩ r) y.1 x :=
      yields_map.1 (yields_record (answer .zero) ((Operation.rescan ⟨[], []⟩).perform r))
    obtain ⟨hmapped, -, hbuiltIns, hbare⟩ := h.rescan hyields fun q reply => reply_of_mem_record
    obtain ⟨hrest, hsame, hlast⟩ := ih (hx ▸ hbare : Bare y.2)
    have hfirst : y.2.builtIns = r.builtIns := hx ▸ hbuiltIns
    refine ⟨?_, hsame.trans hfirst, hlast⟩
    rw [hfirst] at hrest
    have hall : Transcript.mapped (y.1 ++
        (y.2.record (answer .zero) (List.replicate n (.rescan ⟨[], []⟩))).1.transcript) =
          (n + 1) * r.builtIns.length := by
      rw [Transcript.mapped_append, hmapped, hrest, Nat.succ_mul, Nat.add_comm]
    exact hall

theorem bare_registered : Bare (start.record (answer .zero) registered).2 where
  consistent := (follows_record (answer .zero) start registered).consistent (consistent_new _)
  directories := rfl
  current := by decide

theorem mapped_scans (n : Nat) : let x := start.record (answer .zero) (scans n)
    x.1.transcript.mapped = n * 2 ∧ x.2.builtIns.length = 2 ∧ Bare x.2 := by
  obtain ⟨hmapped, hsame, hbare⟩ := bare_registered.record n
  exact ⟨hmapped, congrArg List.length hsame, hbare⟩

/-- When one identity is left, a scan of two plugins gives it to both of them and registers one. -/
theorem collide {n : Nat} (hn : n * 2 + 1 = lastId.toNat) :
    let x := start.record (answer .zero) (scans n)
    let y := (rescan ⟨[], []⟩ x.2).record (answer .zero)
    y.2.1 = 2 ∧ y.2.2.size = 1 ∧
      ¬((IdAllocator.initial.assign (x.1.transcript ++ y.1).newcomers).map Prod.snd).Nodup := by
  intro x y
  obtain ⟨hmapped, hlength, hbare⟩ := mapped_scans n
  have hf : (new ⟨none, none⟩).Follows x.1 x.2 := follows_record (answer .zero) start (scans n)
  have hy : Yields (rescan ⟨[], []⟩ x.2) y.1 y.2 := yields_record _ _
  obtain ⟨hmore, htwo, -, -⟩ := hbare.rescan hy fun q reply => reply_of_mem_record
  rw [hlength] at hmore htwo
  obtain ⟨found, hcount, hlatest, hfound⟩ := rescan_issued hbare.consistent hy
  -- all identities from there on are the last one
  have hcounts : x.2.ledger.ids.next.toNat = min (n * 2 + 1) lastId.toNat := by
    have h := hf.ordered.counts
    rwa [hmapped] at h
  have hlast : ∀ p ∈ found, p.id = lastId := by
    intro p hp
    have hmem := hfound.sublist.subset (List.mem_map_of_mem (f := Plugin.card) hp)
    obtain ⟨k, hk, he⟩ := List.getElem_of_mem hmem
    have hid := IdAllocator.assign_getElem hcounts hk
    rw [he, Nat.min_eq_right (by omega)] at hid
    exact UInt32.toNat_inj.1 hid
  obtain ⟨p, q, rfl⟩ := List.length_eq_two.1 (hcount.symm.trans htwo)
  refine ⟨htwo, ?_, fun hnodup => ?_⟩
  · have hsame : q.id = p.id := (hlast q (by simp)).trans (hlast p (by simp)).symm
    rw [size, hlatest]
    simp [latest, hsame]
  · rw [List.Nodup, List.pairwise_map,
      IdAllocator.assign_pairwise_iff (fun _ _ => UInt32.ne_of_lt) fun hne => hne rfl,
      Transcript.length_newcomers, Transcript.mapped_append, hmapped, hmore] at hnodup
    omega

end Duo

/-! ## All histories -/

namespace Registry

variable {r : Registry} {h : History}

/-- Everything whose code is mapped gets the identity that is one more than the one before, and when
the last one was handed out everything gets the last one. So no identity is handed out twice, and
they increase, iff there are enough of them. A scan registers as many plugins as it counts, each
under its identity, iff at most one of those that it found has the last identity. -/
theorem identities_unique_iff {directories : PluginDirectories}
    (hf : (new directories).Follows h r) :
    let assigned := IdAllocator.initial.assign h.transcript.newcomers
    r.ledger.ids = IdAllocator.initial.after assigned.length ∧
    (r.plugins.map Plugin.card).Sublist assigned ∧
    (∀ k, ∀ hk : k < assigned.length, (assigned[k]).2.toNat = min (k + 1) lastId.toNat) ∧
    ((assigned.Pairwise fun x y => x.2 < y.2) ↔ assigned.length ≤ lastId.toNat) ∧
    ((assigned.map Prod.snd).Nodup ↔ assigned.length ≤ lastId.toNat) ∧
    ∀ fs t x, Yields (rescan fs r) t x → ∃ found : List Plugin,
      x.1 = found.length ∧ x.2.plugins = latest found ∧
      (found.map Plugin.card).Sublist (r.ledger.ids.assign t.newcomers) ∧
      ((x.1 = x.2.size ∧ ∀ p ∈ found, x.2.byId? p.id = some p) ↔
        found.countP (·.id == lastId) ≤ 1) ∧
      (assigned.length + t.newcomers.length ≤ lastId.toNat →
        found.countP (·.id == lastId) ≤ 1) := by
  intro assigned
  have hissued := hf.issued
  have hlength : assigned.length = h.transcript.newcomers.length := IdAllocator.length_assign
  refine ⟨hlength ▸ hissued.ids_eq, hissued.sublist, fun k hk => IdAllocator.initial_getElem hk,
    ?_, ?_, fun fs t x hx => ?_⟩
  · rw [hlength]
    exact IdAllocator.assign_pairwise_iff (fun _ _ hij => hij) (UInt32.lt_irrefl _)
  · rw [hlength, List.Nodup, List.pairwise_map]
    exact IdAllocator.assign_pairwise_iff (fun _ _ => UInt32.ne_of_lt) fun hne => hne rfl
  · obtain ⟨found, hcount, hlatest, hfound⟩ :=
      rescan_issued (hf.consistent (consistent_new directories)) hx
    -- whoever is found is assigned an identity after those that were assigned before
    have hgone : Issued .initial h.transcript r.ledger [] := hissued.mono (List.nil_sublist _)
    have hall : (found.map Plugin.card).Sublist
        (IdAllocator.initial.assign (h.transcript ++ t).newcomers) := (hgone.append hfound).sublist
    have hsorted : found.Pairwise fun p q => Precedes p.id q.id := by
      have hcards := (IdAllocator.assign_precedes _).sublist hall
      rwa [List.pairwise_map] at hcards
    refine ⟨found, hcount, hlatest, hfound.sublist, ?_, fun hfew => ?_⟩
    · rw [hcount]
      exact counted_iff hlatest hsorted
    · rw [← sorted_iff_countP hsorted]
      have hlt : (IdAllocator.initial.assign (h.transcript ++ t).newcomers).Pairwise
          fun x y => x.2 < y.2 :=
        (IdAllocator.assign_pairwise_iff (fun _ _ hij => hij) (UInt32.lt_irrefl _)).2
          (by simpa [hlength] using hfew)
      have hcards := hlt.sublist hall
      rwa [List.pairwise_map] at hcards

/-- Two identities are handed out before the files are there, and five when they are. -/
theorem identities_unique_shelf :
    let h := (Shelf.start.record Shelf.answer Shelf.firstScan).1
    let x := ((rescan Shelf.files Shelf.prior).record Shelf.answer).2
    ((IdAllocator.initial.assign h.transcript.newcomers).map Prod.snd).Nodup ∧ x.1 = x.2.size := by
  intro h x
  have hbefore : h.transcript.newcomers.length = 2 := by decide +kernel
  have hafter : ((rescan Shelf.files Shelf.prior).record Shelf.answer).1.newcomers.length = 5 := by
    rw [rescan, Shelf.candidateFiles_prior]
    decide +kernel
  obtain ⟨-, -, -, -, hnodup, hscan⟩ :=
    identities_unique_iff (follows_record Shelf.answer Shelf.start Shelf.firstScan)
  obtain ⟨found, -, -, -, hexact, hfew⟩ :=
    hscan Shelf.files _ _ (yields_record Shelf.answer (rescan Shelf.files Shelf.prior))
  have hone := hfew (by rw [IdAllocator.length_assign, hbefore, hafter]; decide)
  exact ⟨hnodup.2 (by rw [IdAllocator.length_assign, hbefore]; decide), (hexact.2 hone).1⟩

/-- So it happens after 2147483647 scans: the scan counts two plugins and registers one. -/
theorem identities_collide :
    let x := Duo.start.record (Duo.answer .zero) (Duo.scans 2147483647)
    let y := (rescan ⟨[], []⟩ x.2).record (Duo.answer .zero)
    y.2.1 = 2 ∧ y.2.2.size = 1 ∧
      ¬((IdAllocator.initial.assign (x.1.transcript ++ y.1).newcomers).map Prod.snd).Nodup :=
  Duo.collide (by decide)

end Registry

end PluginHost
