import PluginHost.Proofs.FileSystem.Removal

/-!
# The entry of a file in a directory

A path into a directory names an entry of the directory. Whether what stands there is a link decides
where a file is written.

* **`Places`**: where the directory of such a path is. **`leadsTo_iff_places`**: the path leads
  where its last name leads from there.
* **`resolve_entry`**: what a path names if no link is followed at its end.
* **`Dangles`**: the path names a link, and it leads to nothing.
* **`Written`**, **`write_inv_of_free`**: where a file is written that is not there yet.
  **`write_inv_of_erase`**: where it is written after the entry was removed.
-/

namespace PluginHost
namespace FileSystem

variable {fs fs' : FileSystem} {follow : Bool} {k k' : Nat} {here there l m : Location}
    {a b : Arrival}
  {node : Node} {n : String} {c : Content} {d p : Path}

/-! ## The directory of an entry -/

/-- The path of a file in a directory leads into the directory by all of its steps but the last. -/
def Places (fs : FileSystem) (d : Path) (n : String) (k : Nat) (here : Location) : Prop :=
  fs.Enters maxLinks ((Route.ofPath (d.join ⟨n⟩)).start fs.current)
    (Route.ofPath (d.join ⟨n⟩)).steps.dropLast k here

/-- A joined path leads where its name leads in the directory. -/
theorem leadsTo_iff_places (hn : Path.IsName n) : fs.LeadsTo follow (d.join ⟨n⟩) a ↔
    ∃ k here, fs.Places d n k here ∧ fs.Leads follow k here [.name n] false a := by
  obtain ⟨fromRoot, steps, hroute⟩ := Route.exists_ofPath_join d hn
  unfold LeadsTo Places
  rw [hroute, List.dropLast_concat]
  constructor
  · exact fun h => h.split (by simp)
  · rintro ⟨k, here, he, hl⟩
    exact he.append hl (by simp)

/-- A directory is at one place. -/
theorem Places.unique (h : fs.Places d n k here) (h' : fs.Places d n k' there) : here = there := by
  obtain ⟨s, hl⟩ := Enters.leads h' false
  exact (Enters.location_eq h hl).symm

/-- It stays there when nothing is lost. -/
theorem Places.mono (hw : fs.Within fs') (h : fs.Places d n k here) : fs'.Places d n k here := by
  unfold Places
  rw [hw.current]
  exact Enters.mono hw h

/-- Without a link to be followed the path names what stands under its last name. -/
theorem resolve_entry (hn : Path.IsName n) (hwalk : Walkable (d.join ⟨n⟩))
    (hsize : n.utf8ByteSize ≤ maxName) (hp : fs.Places d n k here)
    (hnode : fs.node? (here ++ [n]) = some node) :
    fs.resolve false (d.join ⟨n⟩) = .ok ⟨here ++ [n], some node, false⟩ := by
  refine resolve_eq_ok.2 ⟨hwalk, (leadsTo_iff_places hn).2 ⟨k, here, hp, ?_⟩⟩
  cases node with
  | file c => exact .file hsize hnode
  | link t => exact .halt hsize hnode rfl
  | dir =>
    rw [← hnode]
    exact .dir hsize hnode .stop

/-- Something that is no directory and that the path names stands in the directory. -/
theorem location_of_entry (hn : Path.IsName n) (h : fs.LeadsTo false (d.join ⟨n⟩) a)
    (ha : a.node ≠ some .dir) (hp : fs.Places d n k here) : a.location = here ++ [n] := by
  obtain ⟨k', there, hp', hl⟩ := (leadsTo_iff_places hn).1 h
  rw [hp.unique hp']
  exact (hl.entry_inv ha).1

/-- What is found under a name, without following it, is the entry of the directory. -/
theorem node?_of_entry (hn : Path.IsName n) (h : fs.resolve false (d.join ⟨n⟩) = .ok a)
    (ha : a.node ≠ some .dir) (hp : fs.Places d n k here) : fs.node? (here ++ [n]) = a.node := by
  obtain ⟨-, hleads⟩ := resolve_eq_ok.1 h
  rw [hleads.node_eq, location_of_entry hn hleads ha hp]

/-- A regular file that the path names is the one that is read. -/
theorem read_of_resolve (h : fs.resolve false p = .ok ⟨l, some (.file c), false⟩) :
    fs.read p = .ok (l, c) := by
  obtain ⟨hwalk, hleads⟩ := resolve_eq_ok.1 h
  exact read_eq_ok.2 (stat_eq_ok.2 ⟨hwalk, false, Leads.following hleads (by simp), by simp⟩)

/-- What can be found has an entry. -/
theorem entry_of_exists (hn : Path.IsName n) (h : fs.exists? (d.join ⟨n⟩) = true) :
    ∃ k here, fs.Places d n k here ∧ fs.node? (here ++ [n]) ≠ none := by
  obtain ⟨l, node, hstat⟩ := exists?_iff.1 h
  obtain ⟨-, s, hleads, -⟩ := stat_eq_ok.1 hstat
  obtain ⟨k, here, hp, hl⟩ := (leadsTo_iff_places hn).1 hleads
  refine ⟨k, here, hp, ?_⟩
  cases hl with
  | file _ hnode => simp [hnode]
  | dir _ hnode => simp [hnode]
  | halt _ hnode => simp [hnode]
  | link _ hnode => simp [hnode]

/-! ## Writing what is not there -/

/-- The path names a link, and nothing is where it leads. -/
def Dangles (fs : FileSystem) (p : Path) : Prop :=
  fs.exists? p = false ∧ ∃ l target slash, fs.resolve false p = .ok ⟨l, some (.link target), slash⟩

theorem not_dangles_of_exists (h : fs.exists? p = true) : ¬fs.Dangles p := fun hd => by
  cases h.symm.trans hd.1

/-- A file was written where nothing was: at the entry of its path, or where a link at the entry
leads. -/
inductive Written (fs : FileSystem) (d : Path) (n : String) (c : Content) : FileSystem → Prop
  | entry {k : Nat} {here : Location} (hp : fs.Places d n k here)
      (hfree : fs.node? (here ++ [n]) = none)
      (hentry : (fs.put (here ++ [n]) (.file c)).resolve false (d.join ⟨n⟩) =
        .ok ⟨here ++ [n], some (.file c), false⟩) :
      Written fs d n c (fs.put (here ++ [n]) (.file c))
  | through {l m : Location} {target : Path} (hfree : fs.node? m = none)
      (hlink : fs.resolve false (d.join ⟨n⟩) = .ok ⟨l, some (.link target), false⟩)
      (hentry : (fs.put m (.file c)).resolve false (d.join ⟨n⟩) =
        .ok ⟨l, some (.link target), false⟩)
      (hread : (fs.put m (.file c)).read (d.join ⟨n⟩) = .ok (m, c)) :
      Written fs d n c (fs.put m (.file c))

/-- Writing to a free path makes a file where there was nothing. -/
theorem leadsTo_of_write (h : fs.write p c = .ok fs') (hfree : fs.exists? p = false) :
    Walkable p ∧ ∃ m, fs.LeadsTo true p ⟨m, none, false⟩ ∧ fs' = fs.put m (.file c) := by
  obtain ⟨hwalk, m, o, hleads, -, hfs'⟩ := write_inv h
  cases o with
  | none => exact ⟨hwalk, m, hleads, hfs'⟩
  | some node =>
    -- what is there would have been found
    have hstat : fs.stat p = .ok (m, node) := stat_eq_ok.2 ⟨hwalk, false, hleads, by simp⟩
    rw [exists?_iff.2 ⟨m, node, hstat⟩] at hfree
    cases hfree

/-- Nothing is lost by it. -/
theorem write_within (h : fs.write p c = .ok fs') (hfree : fs.exists? p = false) :
    fs.Within fs' := by
  obtain ⟨-, m, hleads, rfl⟩ := leadsTo_of_write h hfree
  exact within_put hleads.node_eq.symm

/-- Writing to a free entry makes a file either there or at the end of the dangling link that is
there. -/
theorem write_inv_of_free (hn : Path.IsName n) (h : fs.write (d.join ⟨n⟩) c = .ok fs')
    (hfree : fs.exists? (d.join ⟨n⟩) = false) : fs.Written d n c fs' := by
  have hw := write_within h hfree
  obtain ⟨hwalk, m, hleads, rfl⟩ := leadsTo_of_write h hfree
  have hput : (fs.put m (.file c)).LeadsTo true (d.join ⟨n⟩) ⟨m, some (.file c), false⟩ :=
    hleads.put (by simp) (by simp)
  have hread : (fs.put m (.file c)).read (d.join ⟨n⟩) = .ok (m, c) :=
    read_eq_ok.2 (stat_eq_ok.2 ⟨hwalk, false, hput, by simp⟩)
  obtain ⟨k, here, hp, hl⟩ := (leadsTo_iff_places hn).1 hleads
  generalize ha : (⟨m, none, false⟩ : Arrival) = a at hl
  cases hl with
  | missing hs hmiss =>
    obtain ⟨rfl, -, -⟩ := Arrival.mk.inj ha
    refine .entry hp hmiss (resolve_entry hn hwalk hs (hp.mono hw) ?_)
    exact node?_put_self fs (by simp) _
  | file => cases ha
  | halt => cases ha
  | dir hs hdir h =>
    cases h with
    | stop =>
      rw [hdir] at ha
      cases ha
  | link hs hlink =>
    exact .through hleads.node_eq.symm (resolve_entry hn hwalk hs hp hlink)
      (resolve_entry hn hwalk hs (hp.mono hw) (hw.node _ _ hlink)) hread

/-- The directory is where it was before an entry of it was removed, and the entry is not there. -/
theorem free_of_erase (hn : Path.IsName n) (hold : fs.LeadsTo false (d.join ⟨n⟩) a)
    (ha : a.node ≠ some .dir) (hp : (fs.erase a.location).Places d n k here) :
    a.location = here ++ [n] ∧ (fs.erase a.location).node? (here ++ [n]) = none := by
  have hlocation := location_of_entry hn hold ha (hp.mono erase_within)
  refine ⟨hlocation, ?_⟩
  rw [← hlocation]
  exact node?_erase_self fs (ne_root_of_node? (hold.node_eq ▸ ha))

/-- The path of an entry that was removed leads to nothing. -/
theorem exists_of_erase (hn : Path.IsName n) (hold : fs.LeadsTo false (d.join ⟨n⟩) a)
    (ha : a.node ≠ some .dir) : (fs.erase a.location).exists? (d.join ⟨n⟩) = false := by
  rw [Bool.eq_false_iff]
  intro hfound
  obtain ⟨k, here, hp, hnode⟩ := entry_of_exists hn hfound
  exact hnode (free_of_erase hn hold ha hp).2

/-- Where an entry was removed the file is written at the entry. -/
theorem write_inv_of_erase (hn : Path.IsName n) (hold : fs.LeadsTo false (d.join ⟨n⟩) a)
    (ha : a.node ≠ some .dir) (h : (fs.erase a.location).write (d.join ⟨n⟩) c = .ok fs') :
    fs' = (fs.erase a.location).put a.location (.file c) ∧
      fs'.resolve false (d.join ⟨n⟩) = .ok ⟨a.location, some (.file c), false⟩ := by
  cases write_inv_of_free hn h (exists_of_erase hn hold ha) with
  | entry hp _ hentry =>
    obtain ⟨hlocation, -⟩ := free_of_erase hn hold ha hp
    rw [← hlocation] at hentry ⊢
    exact ⟨rfl, hentry⟩
  | through _ hlink =>
    obtain ⟨-, hleads⟩ := resolve_eq_ok.1 hlink
    obtain ⟨k, here, hp, -⟩ := (leadsTo_iff_places hn).1 hleads
    obtain ⟨-, hfree⟩ := free_of_erase hn hold ha hp
    cases hfree.symm.trans (node?_of_entry hn hlink (by simp) hp)

end FileSystem
end PluginHost
