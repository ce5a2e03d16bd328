import PluginHost.FileSystem

/-!
# Walks without fuel

A walk is bounded by fuel, and there is always enough of it. So what a walk comes to can be said as
a relation, which knows nothing of the bound.

* **`Enters`**: steps lead from one directory into another one.
* **`Leads`**: steps lead to a place where a walk stops. There may be nothing there.
* **`leads_of_walk`**, **`Leads.walk_eq`**: a walk succeeds iff its steps lead somewhere.
  **`resolve_eq_ok`**: so does the resolution of a path.
* **`Leads.split`**, **`Enters.append`**: steps lead somewhere if the first of them lead into a
  directory from which the others lead there.
* **`Leads.mono`**: more files and directories do not change where steps lead that led to something.
* **`Leads.put`**, **`Enters.put`**: nor does what is put where they lead, unless it is a link.
-/

namespace PluginHost
namespace FileSystem

variable {fs fs' : FileSystem} {follow slash : Bool} {k k' fuel : Nat} {here there l : Location}
  {steps rest : List Step} {a b : Arrival} {p target : Path} {n : Node} {o : Option Node}
    {s : String}

/-- The directory from which a route is walked. -/
def Route.start (r : Route) (here : Location) : Location := if r.fromRoot then [] else here

/-- Steps lead into a directory. So many links may be followed before and after. -/
inductive Enters (fs : FileSystem) : Nat → Location → List Step → Nat → Location → Prop
  | stop {k : Nat} {here : Location} : Enters fs k here [] k here
  | here {k k' : Nat} {here there : Location} {rest : List Step}
      (h : Enters fs k here rest k' there) :
      Enters fs k here (.here :: rest) k' there
  | parent {k k' : Nat} {here there : Location} {rest : List Step}
      (h : Enters fs k here.dropLast rest k' there) : Enters fs k here (.parent :: rest) k' there
  | dir {k k' : Nat} {here there : Location} {rest : List Step} {s : String}
      (hs : s.utf8ByteSize ≤ maxName) (hn : fs.node? (here ++ [s]) = some .dir)
      (h : Enters fs k (here ++ [s]) rest k' there) : Enters fs k here (.name s :: rest) k' there
  | link {k k' : Nat} {here there : Location} {rest : List Step} {s : String} {target : Path}
      (hs : s.utf8ByteSize ≤ maxName) (hn : fs.node? (here ++ [s]) = some (.link target))
      (ht : target.text.isEmpty = false)
      (h : Enters fs k ((Route.ofPath target).start here) ((Route.ofPath target).steps ++ rest) k'
        there) : Enters fs (k + 1) here (.name s :: rest) k' there

/-- Steps lead to a place where a walk stops. -/
inductive Leads (fs : FileSystem) (follow : Bool) :
    Nat → Location → List Step → Bool → Arrival → Prop
  | stop {k : Nat} {here : Location} {slash : Bool} :
      Leads fs follow k here [] slash ⟨here, fs.node? here, slash⟩
  | here {k : Nat} {here : Location} {rest : List Step} {slash : Bool} {a : Arrival}
      (h : Leads fs follow k here rest slash a) : Leads fs follow k here (.here :: rest) slash a
  | parent {k : Nat} {here : Location} {rest : List Step} {slash : Bool} {a : Arrival}
      (h : Leads fs follow k here.dropLast rest slash a) :
      Leads fs follow k here (.parent :: rest) slash a
  | missing {k : Nat} {here : Location} {slash : Bool} {s : String} (hs : s.utf8ByteSize ≤ maxName)
      (hn : fs.node? (here ++ [s]) = none) :
      Leads fs follow k here [.name s] slash ⟨here ++ [s], none, slash⟩
  | file {k : Nat} {here : Location} {slash : Bool} {s : String} {c : Content}
      (hs : s.utf8ByteSize ≤ maxName) (hn : fs.node? (here ++ [s]) = some (.file c)) :
      Leads fs follow k here [.name s] slash ⟨here ++ [s], some (.file c), slash⟩
  | dir {k : Nat} {here : Location} {rest : List Step} {slash : Bool} {a : Arrival} {s : String}
      (hs : s.utf8ByteSize ≤ maxName) (hn : fs.node? (here ++ [s]) = some .dir)
      (h : Leads fs follow k (here ++ [s]) rest slash a) :
      Leads fs follow k here (.name s :: rest) slash a
  | halt {k : Nat} {here : Location} {slash : Bool} {s : String} {target : Path}
      (hs : s.utf8ByteSize ≤ maxName) (hn : fs.node? (here ++ [s]) = some (.link target))
      (hf : follow = false) :
      Leads fs follow k here [.name s] slash ⟨here ++ [s], some (.link target), slash⟩
  | link {k : Nat} {here : Location} {rest : List Step} {slash : Bool} {a : Arrival} {s : String}
      {target : Path} (hs : s.utf8ByteSize ≤ maxName)
      (hn : fs.node? (here ++ [s]) = some (.link target)) (ht : target.text.isEmpty = false)
      (hf : rest = [] → follow = true)
      (h : Leads fs follow k ((Route.ofPath target).start here)
        ((Route.ofPath target).steps ++ rest)
        (slash || (rest = [] && (Route.ofPath target).slash)) a) :
      Leads fs follow (k + 1) here (.name s :: rest) slash a

/-- A link does not lead below itself. -/
theorem Route.not_prefix_start (r : Route) (here : Location) (s : String) :
    ¬ here ++ [s] <+: r.start here := by
  intro hpre
  have hle := hpre.length_le
  unfold start at hle
  split at hle
  · simp at hle
  · rw [List.length_append, List.length_singleton] at hle
    omega

/-! ## Fuel -/

/-- A walk that succeeds leads where it ends. The cases are those of the walk, one for each kind of
step. -/
theorem leads_of_walk (h : fs.walk none follow fuel k here steps slash = .ok a) :
    fs.Leads follow k here steps slash a := by
  induction fuel generalizing k here steps slash with
  | zero => simp [walk] at h
  | succ fuel ih =>
    cases steps with
    | nil =>
      obtain rfl := Except.ok.inj h
      exact .stop
    | cons step rest =>
      unfold walk at h
      cases step with
      | here => exact .here (ih h)
      | parent => exact .parent (ih h)
      | name s =>
        dsimp only at h
        split at h
        · simp at h
        rename_i hs
        have hs : s.utf8ByteSize ≤ maxName := Nat.le_of_not_lt hs
        split at h
        · rename_i hn
          split at h
          · rename_i hrest
            subst hrest
            obtain rfl := Except.ok.inj h
            exact .missing hs hn
          · simp at h
        · rename_i hn
          exact .dir hs hn (ih h)
        · rename_i c hn
          split at h
          · rename_i hrest
            subst hrest
            obtain rfl := Except.ok.inj h
            exact .file hs hn
          · simp at h
        · rename_i target hn
          split at h
          · rename_i hhalt
            obtain ⟨rfl, hf⟩ : rest = [] ∧ follow = false := by simpa using hhalt
            obtain rfl := Except.ok.inj h
            exact .halt hs hn hf
          rename_i hgo
          have hf : rest = [] → follow = true := by simpa using hgo
          split at h
          · simp at h
          rename_i hk
          split at h
          · simp at h
          rename_i ht
          rw [if_neg (by simp)] at h
          obtain ⟨k, rfl⟩ := Nat.exists_eq_succ_of_ne_zero hk
          exact .link hs hn (by simpa using ht) hf (ih h)

/-- The greater of a number and the number of steps that a node brings in. -/
def longer (n : Nat) (x : Location × Node) : Nat :=
  match x.2 with
  | .link t => max n (Route.ofPath t).steps.length
  | _ => n

/-- The number of steps of the longest link. -/
def longest (fs : FileSystem) : Nat := fs.nodes.foldl longer 0

theorem le_longer (n : Nat) (x : Location × Node) : n ≤ longer n x := by
  unfold longer
  split
  · exact Nat.le_max_left ..
  · exact Nat.le_refl n

theorem le_foldl_longer (nodes : List (Location × Node)) (n : Nat) : n ≤ nodes.foldl longer n := by
  induction nodes generalizing n with
  | nil => exact Nat.le_refl n
  | cons x nodes ih => exact Nat.le_trans (le_longer n x) (ih _)

theorem length_le_foldl_longer {nodes : List (Location × Node)} (n : Nat)
    (h : (l, .link target) ∈ nodes) :
    (Route.ofPath target).steps.length ≤ nodes.foldl longer n := by
  induction nodes generalizing n with
  | nil => simp at h
  | cons x nodes ih =>
    rcases List.mem_cons.1 h with rfl | h
    · exact Nat.le_trans (Nat.le_max_right ..) (le_foldl_longer nodes _)
    · exact ih _ h

/-- A link is no longer than the longest one. -/
theorem length_le_longest (h : fs.node? l = some (.link target)) :
    (Route.ofPath target).steps.length ≤ fs.longest := by
  unfold node? at h
  split at h
  · simp at h
  obtain ⟨⟨m, d⟩, hfind, rfl⟩ := Option.map_eq_some_iff.1 h
  exact length_le_foldl_longer 0 (List.mem_of_find?_eq_some hfind)

/-- Every step uses one unit of fuel, and every link that is followed brings steps of its own. -/
theorem Leads.walk_eq (h : fs.Leads follow k here steps slash a)
    (hfuel : steps.length + k * (fs.longest + 1) ≤ fuel) :
    fs.walk none follow (fuel + 1) k here steps slash = .ok a := by
  induction h generalizing fuel with
  | stop => rfl
  | @here k here rest slash a h ih =>
    rw [List.length_cons] at hfuel
    obtain ⟨m, rfl⟩ : ∃ m, fuel = m + 1 := ⟨fuel - 1, by omega⟩
    have hrest : fs.walk none follow (m + 1) k here rest slash = .ok a := ih (by omega)
    exact hrest
  | @parent k here rest slash a h ih =>
    rw [List.length_cons] at hfuel
    obtain ⟨m, rfl⟩ : ∃ m, fuel = m + 1 := ⟨fuel - 1, by omega⟩
    have hrest : fs.walk none follow (m + 1) k here.dropLast rest slash = .ok a := ih (by omega)
    exact hrest
  | missing hs hn => simp [walk, Nat.not_lt.2 hs, hn]
  | file hs hn => simp [walk, Nat.not_lt.2 hs, hn]
  | @dir k here rest slash a s hs hn h ih =>
    rw [List.length_cons] at hfuel
    obtain ⟨m, rfl⟩ : ∃ m, fuel = m + 1 := ⟨fuel - 1, by omega⟩
    have hrest : fs.walk none follow (m + 1) k (here ++ [s]) rest slash = .ok a := ih (by omega)
    rw [walk]
    dsimp only
    rw [if_neg (Nat.not_lt.2 hs), hn]
    exact hrest
  | halt hs hn hf => simp [walk, Nat.not_lt.2 hs, hn, hf]
  | @link k here rest slash a s target hs hn ht hf h ih =>
    rw [List.length_cons, Nat.succ_mul] at hfuel
    obtain ⟨m, rfl⟩ : ∃ m, fuel = m + 1 := ⟨fuel - 1, by omega⟩
    have hlong := length_le_longest hn
    have hrest : fs.walk none follow (m + 1) k ((Route.ofPath target).start here)
        ((Route.ofPath target).steps ++ rest)
        (slash || (rest = [] && (Route.ofPath target).slash)) = .ok a :=
      ih (by rw [List.length_append]; omega)
    have hgo : ¬ (rest = [] && !follow) = true := by simpa using hf
    rw [walk]
    dsimp only
    rw [if_neg (Nat.not_lt.2 hs), hn]
    dsimp only
    rw [if_neg hgo, if_neg (Nat.succ_ne_zero k), if_neg (by simp [ht]), if_neg (by simp)]
    exact hrest

/-- Steps lead to one place only. -/
theorem Leads.unique (h : fs.Leads follow k here steps slash a)
    (h' : fs.Leads follow k here steps slash b) : a = b := by
  have hfuel : steps.length + k * (fs.longest + 1) ≤ steps.length + k * (fs.longest + 1) :=
    Nat.le_refl _
  exact Except.ok.inj ((h.walk_eq hfuel).symm.trans (h'.walk_eq hfuel))

/-- A path that can be walked at all. -/
def Walkable (p : Path) : Prop :=
  p.text.toList.contains '\x00' = false ∧ p.text.isEmpty = false ∧ p.text.utf8ByteSize ≤ maxPath

/-- A path leads to a place where a walk stops. -/
def LeadsTo (fs : FileSystem) (follow : Bool) (p : Path) (a : Arrival) : Prop :=
  fs.Leads follow maxLinks ((Route.ofPath p).start fs.current) (Route.ofPath p).steps
    (Route.ofPath p).slash a

/-- What a path resolves to is where it leads. -/
theorem resolve_eq_ok : fs.resolve follow p = .ok a ↔ Walkable p ∧ fs.LeadsTo follow p a := by
  -- the fuel is one more than what suffices
  have hfuel : fs.walkFuel (Route.ofPath p).steps =
      (Route.ofPath p).steps.length + maxLinks * (fs.longest + 1) + 1 + 1 := rfl
  have hwalk : fs.walk none follow (fs.walkFuel (Route.ofPath p).steps) maxLinks
      ((Route.ofPath p).start fs.current) (Route.ofPath p).steps (Route.ofPath p).slash = .ok a ↔
        fs.LeadsTo follow p a :=
    ⟨leads_of_walk, fun h => hfuel ▸ Leads.walk_eq h (Nat.le_succ _)⟩
  rw [← hwalk]
  unfold resolve Walkable
  constructor
  · intro h
    split at h
    · simp at h
    rename_i hnul
    split at h
    · simp at h
    rename_i hempty
    split at h
    · simp at h
    rename_i hlong
    exact ⟨⟨by simpa using hnul, by simpa using hempty, Nat.le_of_not_lt hlong⟩, h⟩
  · rintro ⟨⟨hnul, hempty, hlong⟩, h⟩
    rw [if_neg (by rw [hnul]; simp), if_neg (by rw [hempty]; simp), if_neg (Nat.not_lt.2 hlong)]
    exact h

/-! ## Parts of a walk -/

/-- An arrival holds the node at its place. -/
theorem Leads.node_eq (h : fs.Leads follow k here steps slash a) :
    a.node = fs.node? a.location := by
  induction h with
  | stop => rfl
  | here h ih => exact ih
  | parent h ih => exact ih
  | missing hs hn => exact hn.symm
  | file hs hn => exact hn.symm
  | dir hs hn h ih => exact ih
  | halt hs hn hf => exact hn.symm
  | link hs hn ht hf h ih => exact ih

/-- A link that is not followed is all that a walk can stop short of. -/
theorem Leads.following (h : fs.Leads follow k here steps slash a)
    (ha : ∀ t, a.node ≠ some (.link t)) : fs.Leads true k here steps slash a := by
  induction h with
  | stop => exact .stop
  | here h ih => exact .here (ih ha)
  | parent h ih => exact .parent (ih ha)
  | missing hs hn => exact .missing hs hn
  | file hs hn => exact .file hs hn
  | dir hs hn h ih => exact .dir hs hn (ih ha)
  | halt hs hn hf => exact absurd rfl (ha _)
  | link hs hn ht hf h ih => exact .link hs hn ht (fun _ => rfl) (ih ha)

/-- A slash behind the target of a link says nothing if the link is not the last step. -/
theorem slash_of_more {slash' : Bool} (hrest : rest ≠ []) :
    (slash || (steps ++ rest = [] && slash')) = slash := by
  simp [hrest]

/-- What stands in front of more steps has to lead into a directory. -/
theorem Leads.split (h : fs.Leads follow k here (steps ++ rest) slash a) (hrest : rest ≠ []) :
    ∃ k' there, fs.Enters k here steps k' there ∧ fs.Leads follow k' there rest slash a := by
  generalize hall : steps ++ rest = all at h
  induction h generalizing steps with
  | stop => exact absurd (List.append_eq_nil_iff.1 hall).2 hrest
  | @here k here tail slash a h ih =>
    rcases List.append_eq_cons_iff.1 hall with ⟨rfl, rfl⟩ | ⟨front, rfl, rfl⟩
    · exact ⟨k, here, .stop, .here h⟩
    · obtain ⟨k', there, he, hl⟩ := ih rfl
      exact ⟨k', there, .here he, hl⟩
  | @parent k here tail slash a h ih =>
    rcases List.append_eq_cons_iff.1 hall with ⟨rfl, rfl⟩ | ⟨front, rfl, rfl⟩
    · exact ⟨k, here, .stop, .parent h⟩
    · obtain ⟨k', there, he, hl⟩ := ih rfl
      exact ⟨k', there, .parent he, hl⟩
  | @missing k here slash s hs hn =>
    rcases List.append_eq_cons_iff.1 hall with ⟨rfl, rfl⟩ | ⟨front, rfl, hnil⟩
    · exact ⟨k, here, .stop, .missing hs hn⟩
    · exact absurd (List.append_eq_nil_iff.1 hnil.symm).2 hrest
  | @file k here slash s c hs hn =>
    rcases List.append_eq_cons_iff.1 hall with ⟨rfl, rfl⟩ | ⟨front, rfl, hnil⟩
    · exact ⟨k, here, .stop, .file hs hn⟩
    · exact absurd (List.append_eq_nil_iff.1 hnil.symm).2 hrest
  | @dir k here tail slash a s hs hn h ih =>
    rcases List.append_eq_cons_iff.1 hall with ⟨rfl, rfl⟩ | ⟨front, rfl, rfl⟩
    · exact ⟨k, here, .stop, .dir hs hn h⟩
    · obtain ⟨k', there, he, hl⟩ := ih rfl
      exact ⟨k', there, .dir hs hn he, hl⟩
  | @halt k here slash s target hs hn hf =>
    rcases List.append_eq_cons_iff.1 hall with ⟨rfl, rfl⟩ | ⟨front, rfl, hnil⟩
    · exact ⟨k, here, .stop, .halt hs hn hf⟩
    · exact absurd (List.append_eq_nil_iff.1 hnil.symm).2 hrest
  | @link k here tail slash a s target hs hn ht hf h ih =>
    rcases List.append_eq_cons_iff.1 hall with ⟨rfl, rfl⟩ | ⟨front, rfl, rfl⟩
    · exact ⟨k + 1, here, .stop, .link hs hn ht hf h⟩
    · obtain ⟨k', there, he, hl⟩ := ih (List.append_assoc ..)
      rw [slash_of_more hrest] at hl
      exact ⟨k', there, .link hs hn ht he, hl⟩

/-- Steps into a directory and steps from there are steps from the start. -/
theorem Enters.append (h : fs.Enters k here steps k' there)
    (hl : fs.Leads follow k' there rest slash a) (hrest : rest ≠ []) :
    fs.Leads follow k here (steps ++ rest) slash a := by
  induction h with
  | stop => exact hl
  | here h ih => exact .here (ih hl)
  | parent h ih => exact .parent (ih hl)
  | dir hs hn h ih => exact .dir hs hn (ih hl)
  | link hs hn ht h ih =>
    refine .link hs hn ht (fun hnil => absurd (List.append_eq_nil_iff.1 hnil).2 hrest) ?_
    rw [List.append_eq, slash_of_more hrest, ← List.append_assoc]
    exact ih hl

/-- A walk that has entered a directory may stop there. -/
theorem Enters.leads (h : fs.Enters k here steps k' there) (slash : Bool) :
    ∃ s, fs.Leads true k here steps slash ⟨there, fs.node? there, s⟩ := by
  induction h generalizing slash with
  | stop => exact ⟨slash, .stop⟩
  | here h ih =>
    obtain ⟨s, hl⟩ := ih slash
    exact ⟨s, .here hl⟩
  | parent h ih =>
    obtain ⟨s, hl⟩ := ih slash
    exact ⟨s, .parent hl⟩
  | dir hs hn h ih =>
    obtain ⟨s, hl⟩ := ih slash
    exact ⟨s, .dir hs hn hl⟩
  | link hs hn ht h ih =>
    obtain ⟨s, hl⟩ := ih _
    exact ⟨s, .link hs hn ht (fun _ => rfl) hl⟩

/-! ## Changes elsewhere -/

/-- Whatever is in one file system is in the other as well. -/
structure Within (fs fs' : FileSystem) : Prop where
  current : fs'.current = fs.current
  node : ∀ l n, fs.node? l = some n → fs'.node? l = some n

theorem Within.refl (fs : FileSystem) : fs.Within fs := ⟨rfl, fun _ _ h => h⟩

theorem Within.trans {fs'' : FileSystem} (h : fs.Within fs') (h' : fs'.Within fs'') :
    fs.Within fs'' :=
  ⟨h'.current.trans h.current, fun l n hn => h'.node l n (h.node l n hn)⟩

/-- Nothing is lost when something is put where nothing was. -/
theorem within_put (h : fs.node? l = none) : fs.Within (fs.put l n) := by
  refine ⟨rfl, fun m d hm => ?_⟩
  have hne : m ≠ l := by
    rintro rfl
    simp [h] at hm
  rwa [node?_put_of_ne fs hne]

/-- Nothing is added by a removal. -/
theorem erase_within : (fs.erase l).Within fs := by
  refine ⟨rfl, fun m d hm => ?_⟩
  by_cases hml : m = l
  · subst hml
    by_cases hroot : m = []
    · subst hroot
      exact hm
    · rw [node?_erase_self fs hroot] at hm
      simp at hm
  · rwa [node?_erase_of_ne fs hml] at hm

/-- Steps lead to the same place when nothing is lost. -/
theorem Leads.mono (hw : fs.Within fs') (h : fs.Leads follow k here steps slash a)
    (ha : a.node ≠ none) : fs'.Leads follow k here steps slash a := by
  induction h with
  | @stop k here slash =>
    obtain ⟨n, hn⟩ := Option.ne_none_iff_exists'.1 ha
    have hn : fs.node? here = some n := hn
    rw [hn, ← hw.node here n hn]
    exact .stop
  | here h ih => exact .here (ih ha)
  | parent h ih => exact .parent (ih ha)
  | missing hs hn => exact absurd rfl ha
  | file hs hn => exact .file hs (hw.node _ _ hn)
  | dir hs hn h ih => exact .dir hs (hw.node _ _ hn) (ih ha)
  | halt hs hn hf => exact .halt hs (hw.node _ _ hn) hf
  | link hs hn ht hf h ih => exact .link hs (hw.node _ _ hn) ht hf (ih ha)

/-- The same for steps that enter directories. -/
theorem Enters.mono (hw : fs.Within fs') (h : fs.Enters k here steps k' there) :
    fs'.Enters k here steps k' there := by
  induction h with
  | stop => exact .stop
  | here h ih => exact .here ih
  | parent h ih => exact .parent ih
  | dir hs hn h ih => exact .dir hs (hw.node _ _ hn) ih
  | link hs hn ht h ih => exact .link hs (hw.node _ _ hn) ht ih

/-- A walk that is not below a link and follows all links does not come to stand there. -/
theorem Leads.avoids (hl : fs.node? l = some (.link target))
    (h : fs.Leads true k here steps slash a) (hhere : ¬ l <+: here) : ¬ l <+: a.location := by
  have hroot : ¬ l <+: [] := by
    intro hpre
    rw [List.prefix_nil.1 hpre] at hl
    simp [node?] at hl
  -- below a name is below the link only if the name is the link
  have hnext {here : Location} {s : String} (hhere : ¬ l <+: here)
      (hne : fs.node? (here ++ [s]) ≠ some (.link target)) : ¬ l <+: here ++ [s] := by
    intro hpre
    rcases List.prefix_concat_iff.1 hpre with rfl | hpre
    · exact hne hl
    · exact hhere hpre
  induction h with
  | stop => exact hhere
  | here h ih => exact ih hhere
  | parent h ih => exact ih fun hpre => hhere (hpre.trans (List.dropLast_prefix _))
  | missing hs hn => exact hnext hhere (by simp [hn])
  | file hs hn => exact hnext hhere (by simp [hn])
  | dir hs hn h ih => exact ih (hnext hhere (by simp [hn]))
  | halt hs hn hf => simp at hf
  | link hs hn ht hf h ih =>
    refine ih ?_
    unfold Route.start
    split
    · exact hroot
    · exact hhere

/-- The root is a directory. -/
theorem ne_root_of_node? (hl : fs.node? l ≠ some .dir) : l ≠ [] := by
  rintro rfl
  simp [node?] at hl

/-- What is put under a name is found there. -/
theorem leads_put_name (hs : s.utf8ByteSize ≤ maxName) (hl : fs.node? (here ++ [s]) ≠ some .dir)
    (hn : ∀ t, n ≠ .link t) :
    (fs.put (here ++ [s]) n).Leads true k here [.name s] slash ⟨here ++ [s], some n, slash⟩ := by
  have hself := node?_put_self fs (ne_root_of_node? hl) n
  cases n with
  | dir =>
    have hstop : (fs.put (here ++ [s]) .dir).Leads true k (here ++ [s]) [] slash
        ⟨here ++ [s], (fs.put (here ++ [s]) .dir).node? (here ++ [s]), slash⟩ := .stop
    rw [hself] at hstop
    exact .dir hs hself hstop
  | file c => exact .file hs hself
  | link t => exact absurd rfl (hn t)

/-- What is put where a walk stops is found there: it replaces nothing that the walk needed. -/
theorem Leads.put (h : fs.Leads true k here steps slash a) (ha : a.node ≠ some .dir)
    (hn : ∀ t, n ≠ .link t) :
    (fs.put a.location n).Leads true k here steps slash ⟨a.location, some n, a.slash⟩ := by
  induction h with
  | @stop k here slash =>
    have hself := node?_put_self fs (ne_root_of_node? ha) n
    have hstop : (fs.put here n).Leads true k here [] slash
        ⟨here, (fs.put here n).node? here, slash⟩ := .stop
    rwa [hself] at hstop
  | here h ih => exact .here (ih ha)
  | parent h ih => exact .parent (ih ha)
  | missing hs hmiss => exact leads_put_name hs (by simp [hmiss]) hn
  | file hs hfile => exact leads_put_name hs (by simp [hfile]) hn
  | @dir k here rest slash a s hs hdir h ih =>
    have hne : here ++ [s] ≠ a.location := by
      intro he
      rw [h.node_eq, ← he] at ha
      exact ha hdir
    exact .dir hs (by rw [node?_put_of_ne fs hne, hdir]) (ih ha)
  | halt hs hlink hf => simp at hf
  | @link k here rest slash a s target hs hlink ht hf h ih =>
    -- a walk that follows a link is not below it any more
    have hne : here ++ [s] ≠ a.location := by
      intro he
      exact h.avoids hlink (Route.not_prefix_start _ _ _) (he ▸ List.prefix_refl _)
    exact .link hs (by rw [node?_put_of_ne fs hne, hlink]) ht hf (ih ha)

/-- The directories on the way to the place are still entered. -/
theorem Enters.put (h : fs.Enters k here steps k' there)
    (hl : fs.Leads true k' there rest slash a) (hrest : rest ≠ []) (ha : a.node ≠ some .dir) :
    (fs.put a.location n).Enters k here steps k' there := by
  induction h with
  | stop => exact .stop
  | here h ih => exact .here (ih hl)
  | parent h ih => exact .parent (ih hl)
  | @dir k k' here there tail s hs hn h ih =>
    have hne : here ++ [s] ≠ a.location := by
      intro he
      rw [hl.node_eq, ← he] at ha
      exact ha hn
    exact .dir hs (by rw [node?_put_of_ne fs hne, hn]) (ih hl)
  | @link k k' here there tail s target hs hn ht h ih =>
    have hne : here ++ [s] ≠ a.location := by
      intro he
      exact (h.append hl hrest).avoids hn (Route.not_prefix_start _ _ _) (he ▸ List.prefix_refl _)
    exact .link hs (by rw [node?_put_of_ne fs hne, hn]) ht (ih hl)

end FileSystem
end PluginHost
