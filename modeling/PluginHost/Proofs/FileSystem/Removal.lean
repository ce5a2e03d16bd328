import PluginHost.Proofs.FileSystem.Commands

/-!
# What a removal takes away

A file or a link that is removed is gone from its directory. Whether other paths still lead where
they led depends on whether a walk can get past it.

* **`Leads.location_unique`**: steps lead to one place, however many links may be followed.
* **`Grounded`**: a directory that is there with those above it. **`Enters.grounded`**: a walk from
  one enters only such directories.
* **`Ends`**: no walk gets past a place. **`ends_of_file`**: a file is such a place, and
  **`ends_of_leads`**: so is a link that does not lead to a directory.
* **`Leads.erase`**: a walk to somewhere else does not need what is removed at such a place.
  **`Leads.erase_end`**: a walk to the place itself finds nothing there any more.
* **`write_erase`**: so a file that was removed can be written again.
-/

namespace PluginHost
namespace FileSystem

variable {fs fs' : FileSystem} {follow slash slash' : Bool} {k k' : Nat} {here there l m : Location}
  {steps rest : List Step} {a b : Arrival} {node : Node} {s n : String} {c : Content}
  {p d target : Path}

/-! ## One place -/

/-- Steps lead to the same place if more links may be followed. A slash at the end shows only in the
arrival. -/
theorem Leads.relax (h : fs.Leads follow k here steps slash a) (hk : k ≤ k') (slash' : Bool) :
    ∃ s, fs.Leads follow k' here steps slash' ⟨a.location, a.node, s⟩ := by
  induction h generalizing k' slash' with
  | stop => exact ⟨slash', .stop⟩
  | here _ ih =>
    obtain ⟨s, h⟩ := ih hk slash'
    exact ⟨s, .here h⟩
  | parent _ ih =>
    obtain ⟨s, h⟩ := ih hk slash'
    exact ⟨s, .parent h⟩
  | missing hs hn => exact ⟨slash', .missing hs hn⟩
  | file hs hn => exact ⟨slash', .file hs hn⟩
  | dir hs hn _ ih =>
    obtain ⟨s, h⟩ := ih hk slash'
    exact ⟨s, .dir hs hn h⟩
  | halt hs hn hf => exact ⟨slash', .halt hs hn hf⟩
  | link hs hn ht hf _ ih =>
    obtain ⟨j, rfl⟩ : ∃ j, k' = j + 1 := ⟨k' - 1, by omega⟩
    obtain ⟨s, h⟩ := ih (Nat.le_of_succ_le_succ hk) _
    exact ⟨s, .link hs hn ht hf h⟩

/-- Neither the fuel nor a slash at the end matters for where steps lead. -/
theorem Leads.location_unique (h : fs.Leads follow k here steps slash a)
    (h' : fs.Leads follow k' here steps slash' b) : a.location = b.location := by
  obtain ⟨s, h⟩ := h.relax (Nat.le_max_left k k') slash
  obtain ⟨s', h'⟩ := h'.relax (Nat.le_max_right k k') slash
  exact (Arrival.mk.inj (h.unique h')).1

/-- A walk that starts with a file ends with it. -/
theorem Leads.location_of_file (h : fs.Leads follow k here [.name s] slash a)
    (hn : fs.node? (here ++ [s]) = some (.file c)) : a.location = here ++ [s] := by
  cases h with
  | missing => rfl
  | file => rfl
  | dir _ hn' => cases hn.symm.trans hn'
  | halt => rfl
  | link _ hn' => cases hn.symm.trans hn'

/-- Steps that enter a directory lead there. -/
theorem Enters.location_eq (h : fs.Enters k here steps k' there) {j : Nat}
    (h' : fs.Leads true j here steps slash a) : a.location = there := by
  obtain ⟨s, hl⟩ := h.leads slash
  exact h'.location_unique hl

/-! ## Directories that are there -/

/-- The directory is there with those above it. -/
def Grounded (fs : FileSystem) (l : Location) : Prop := ∀ m, m <+: l → fs.node? m = some .dir

theorem grounded_root : fs.Grounded [] := by
  intro m hm
  rw [List.prefix_nil.1 hm]
  rfl

theorem Grounded.node? (h : fs.Grounded l) : fs.node? l = some .dir := h l (List.prefix_refl l)

theorem Grounded.mono (hw : fs.Within fs') (h : fs.Grounded l) : fs'.Grounded l :=
  fun m hm => hw.node m .dir (h m hm)

theorem Grounded.start (h : fs.Grounded here) (r : Route) : fs.Grounded (r.start here) := by
  unfold Route.start
  split
  · exact grounded_root
  · exact h

/-- Who walks into directories from a place that is there stays on such places. -/
theorem Enters.grounded (h : fs.Enters k here steps k' there) (hhere : fs.Grounded here) :
    fs.Grounded there := by
  induction h with
  | stop => exact hhere
  | here _ ih => exact ih hhere
  | parent _ ih => exact ih fun m hm => hhere m (hm.trans (List.dropLast_prefix _))
  | dir hs hn _ ih =>
    refine ih fun m hm => ?_
    rcases List.prefix_concat_iff.1 hm with rfl | hm
    · exact hn
    · exact hhere m hm
  | link hs hn ht _ ih => exact ih (hhere.start _)

/-! ## Places that no walk gets past -/

/-- There is no directory, and if there is a link then no walk enters a directory by it. -/
structure Ends (fs : FileSystem) (l : Location) : Prop where
  not_dir : fs.node? l ≠ some .dir
  not_entered : ∀ here s target, here ++ [s] = l → fs.node? l = some (.link target) → ∀ k k' there,
    ¬fs.Enters k ((Route.ofPath target).start here) (Route.ofPath target).steps k' there

theorem ends_of_file (h : fs.node? l = some (.file c)) : fs.Ends l where
  not_dir := by simp [h]
  not_entered := by
    intro here s target _ hlink
    cases h.symm.trans hlink

/-- A link in a directory that is there, to something that is no directory. -/
theorem ends_of_leads (hn : fs.node? (here ++ [s]) = some (.link target)) (hhere : fs.Grounded here)
    (h : fs.Leads true k here [.name s] slash a) (ha : a.node ≠ some .dir) :
    fs.Ends (here ++ [s]) where
  not_dir := by simp [hn]
  not_entered := by
    intro here' s' target' heq hlink j j' there he
    obtain ⟨rfl, hs⟩ := List.append_inj' heq rfl
    obtain rfl : target = target' := by simpa using hn.symm.trans hlink
    cases h with
    | missing _ hn' => cases hn.symm.trans hn'
    | file _ hn' => cases hn.symm.trans hn'
    | dir _ hn' => cases hn.symm.trans hn'
    | halt _ _ hf => cases hf
    | link _ hn' _ _ h =>
      obtain rfl : target = _ := by simpa using hn.symm.trans hn'
      -- what the walk enters is where the link leads
      rw [List.append_nil] at h
      have hthere := he.grounded (hhere.start _)
      rw [h.node_eq, he.location_eq h, hthere.node?] at ha
      exact ha rfl

/-- A walk past a link enters a directory by it, or the link is the last step. -/
theorem Ends.eq_nil (hl : fs.Ends (here ++ [s])) (hn : fs.node? (here ++ [s]) = some (.link target))
    (h : fs.Leads follow k ((Route.ofPath target).start here)
      ((Route.ofPath target).steps ++ rest) slash a) : rest = [] := by
  by_contra hrest
  obtain ⟨j, there, he, -⟩ := h.split hrest
  exact hl.not_entered here s target rfl hn k j there he

/-- What is removed is not on the way to somewhere else, unless the link itself leads there. -/
theorem Leads.erase (h : fs.Leads true k here steps slash a) (hl : fs.Ends l) (ha : a.location ≠ l)
    (hend : ∀ here s target j slash, here ++ [s] = l → fs.node? l = some (.link target) →
      ¬fs.Leads true j ((Route.ofPath target).start here) (Route.ofPath target).steps slash a) :
    (fs.erase l).Leads true k here steps slash a := by
  have hkept {o : Option Node} {m : Location} (hm : m ≠ l) (hn : fs.node? m = o) :
      (fs.erase l).node? m = o :=
    (node?_erase_of_ne fs hm).trans hn
  induction h with
  | stop =>
    rw [← hkept ha rfl]
    exact .stop
  | here _ ih => exact .here (ih ha hend)
  | parent _ ih => exact .parent (ih ha hend)
  | missing hs hn => exact .missing hs (hkept ha hn)
  | file hs hn => exact .file hs (hkept ha hn)
  | dir hs hn _ ih => exact .dir hs (hkept (fun he => hl.not_dir (he ▸ hn)) hn) (ih ha hend)
  | halt _ _ hf => cases hf
  | @link k here rest slash a s target hs hn ht hf h ih =>
    refine .link hs (hkept ?_ hn) ht hf (ih ha hend)
    rintro rfl
    obtain rfl := hl.eq_nil hn h
    exact hend here s target k _ rfl hn (by simpa using h)

/-- A walk to a place finds nothing there once what was there is removed. -/
theorem Leads.erase_end (h : fs.Leads false k here steps slash a) (hl : fs.Ends a.location) :
    (fs.erase a.location).Leads true k here steps slash ⟨a.location, none, a.slash⟩ := by
  have hgone : (fs.erase a.location).node? a.location = none :=
    node?_erase_self fs (ne_root_of_node? hl.not_dir)
  have hkept {n : Node} {m : Location} (hm : m ≠ a.location) (hn : fs.node? m = some n) :
      (fs.erase a.location).node? m = some n :=
    (node?_erase_of_ne fs hm).trans hn
  induction h with
  | stop =>
    rw [← hgone]
    exact .stop
  | here _ ih => exact .here (ih hl hgone hkept)
  | parent _ ih => exact .parent (ih hl hgone hkept)
  | missing hs hn => exact .missing hs hgone
  | file hs hn => exact .missing hs hgone
  | dir hs hn _ ih =>
    exact .dir hs (hkept (fun he => hl.not_dir (he ▸ hn)) hn) (ih hl hgone hkept)
  | halt hs hn hf => exact .missing hs hgone
  | link hs hn ht hf h ih =>
    refine .link hs (hkept ?_ hn) ht (fun _ => rfl) (ih hl hgone hkept)
    intro he
    -- the walk would have to get past the place in order to come back to it
    rw [← he] at hl
    cases hf (hl.eq_nil hn h)

/-! ## The entry of a path -/

/-- The last step of a path into a directory is a name, also if the path of the directory is
empty. -/
theorem Route.exists_ofPath_join (d : Path) (hn : Path.IsName n) : ∃ fromRoot steps,
    Route.ofPath (d.join ⟨n⟩) = ⟨fromRoot, steps ++ [.name n], false⟩ := by
  by_cases hd : d.text = ""
  · have hroot : (⟨n⟩ : Path).isAbsolute = false := by
      have hfirst : n.toList.head? ≠ some '/' := fun h => hn.no_slash (List.mem_of_head? h)
      simpa [Path.isAbsolute] using hfirst
    have hslash : n.toList.getLast? ≠ some '/' := fun h => hn.no_slash (List.mem_of_getLast? h)
    have hstep : Step.ofPiece? n.toList = some (.name n) := by
      unfold Step.ofPiece?
      rw [if_neg hn.ne_empty, if_neg hn.ne_here, if_neg hn.ne_parent, String.ofList_toList]
    refine ⟨false, [], ?_⟩
    rw [Path.join, if_pos (by simp [hd]), Route.ofPath, hroot, Path.pieces,
      Pieces.split_of_not_mem hn.no_slash]
    simp [hstep, hslash]
  · exact ⟨_, _, Route.ofPath_join hd hn⟩

/-- What stands under a name is found there if no link is followed at the end. -/
theorem Leads.entry_inv (h : fs.Leads false k here [.name s] slash a) (ha : a.node ≠ some .dir) :
    a.location = here ++ [s] ∧ a.slash = slash := by
  cases h with
  | missing => exact ⟨rfl, rfl⟩
  | file => exact ⟨rfl, rfl⟩
  | dir hs hn h =>
    cases h with
    | stop => exact absurd hn ha
  | halt => exact ⟨rfl, rfl⟩
  | link _ _ _ hf => cases hf rfl

/-- A path that leads somewhere does so by its entry, which is in a directory that is there. -/
theorem leads_of_entry (hn : Path.IsName n) (h : fs.LeadsTo false (d.join ⟨n⟩) a)
    (ha : a.node ≠ some .dir) (h' : fs.LeadsTo true (d.join ⟨n⟩) b) :
    a.slash = false ∧ ∃ here k, a.location = here ++ [n] ∧
      (fs.Grounded fs.current → fs.Grounded here) ∧ fs.Leads true k here [.name n] false b := by
  obtain ⟨fromRoot, steps, hroute⟩ := Route.exists_ofPath_join d hn
  unfold LeadsTo at h h'
  rw [hroute] at h h'
  obtain ⟨k, there, he, hlast⟩ := Leads.split h (by simp)
  obtain ⟨k', here, he', hlast'⟩ := Leads.split h' (by simp)
  -- the directory is the same whether a link at the end is followed or not
  obtain ⟨s, hthere⟩ := he.leads false
  obtain rfl : there = here := he'.location_eq hthere
  obtain ⟨hlocation, hslash⟩ := hlast.entry_inv ha
  refine ⟨hslash, there, k', hlocation, fun hcurrent => ?_, hlast'⟩
  exact he.grounded (hcurrent.start ⟨fromRoot, _, _⟩)

/-- No walk gets past the entry of a path that leads to something else than a directory. -/
theorem ends_of_entry (hn : Path.IsName n) (h : fs.LeadsTo false (d.join ⟨n⟩) a)
    (ha : a.node = some (.link target)) (h' : fs.LeadsTo true (d.join ⟨n⟩) b)
    (hb : b.node ≠ some .dir) (hcurrent : fs.Grounded fs.current) : fs.Ends a.location := by
  obtain ⟨-, here, k, hlocation, hhere, hlast⟩ := leads_of_entry hn h (by simp [ha]) h'
  have hlink : fs.node? (here ++ [n]) = some (.link target) := by
    rw [← hlocation, ← h.node_eq, ha]
  exact hlocation ▸ ends_of_leads hlink (hhere hcurrent) hlast hb

/-! ## Removing an entry and writing it again -/

/-- A path that leads to something else than the entry does is not touched by its removal. -/
theorem stat_erase (hn : Path.IsName n) (h : fs.LeadsTo false (d.join ⟨n⟩) a)
    (hl : fs.Ends a.location) (h' : fs.LeadsTo true (d.join ⟨n⟩) b)
    (hp : fs.stat p = .ok (m, node)) (hentry : m ≠ a.location) (hother : m ≠ b.location) :
    (fs.erase a.location).stat p = .ok (m, node) := by
  obtain ⟨-, here, k, hlocation, -, hlast⟩ :=
    leads_of_entry hn h (fun ha => hl.not_dir (h.node_eq ▸ ha)) h'
  obtain ⟨hwalk, s, hleads, hslash⟩ := stat_eq_ok.1 hp
  refine stat_eq_ok.2 ⟨hwalk, s, Leads.erase hleads hl hentry ?_, hslash⟩
  -- where the entry is a link, it leads where the path does that it is the entry of
  intro here' s' target j slash heq hlink hj
  obtain ⟨rfl, hs⟩ := List.append_inj' (heq.trans hlocation) rfl
  obtain rfl : s' = n := by simpa using hs
  rw [← heq] at hlink
  cases hlast with
  | missing _ hn' => cases hlink.symm.trans hn'
  | file _ hn' => cases hlink.symm.trans hn'
  | dir _ hn' => cases hlink.symm.trans hn'
  | halt _ _ hf => cases hf
  | link _ hn' _ _ hlast =>
    obtain rfl : target = _ := by simpa using hlink.symm.trans hn'
    rw [List.append_nil] at hlast
    exact hother (hj.location_unique hlast)

/-- A file can be written where an entry was removed that no walk gets past. -/
theorem write_erase (hn : Path.IsName n) (hp : Walkable (d.join ⟨n⟩))
    (h : fs.LeadsTo false (d.join ⟨n⟩) a) (hl : fs.Ends a.location)
    (h' : fs.LeadsTo true (d.join ⟨n⟩) b) (c : Content) :
    ∃ fs', (fs.erase a.location).write (d.join ⟨n⟩) c = .ok fs' := by
  obtain ⟨hslash, -⟩ := leads_of_entry hn h (fun ha => hl.not_dir (h.node_eq ▸ ha)) h'
  have hgone : (fs.erase a.location).LeadsTo true (d.join ⟨n⟩) ⟨a.location, none, a.slash⟩ :=
    Leads.erase_end h hl
  rw [hslash] at hgone
  refine ⟨(fs.erase a.location).put a.location (.file c), ?_⟩
  unfold write
  rw [resolve_eq_ok.2 ⟨hp, hgone⟩]
  rfl

end FileSystem
end PluginHost
