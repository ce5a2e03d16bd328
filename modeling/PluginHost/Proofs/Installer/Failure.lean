import PluginHost.Proofs.FileSystem.Removal
import PluginHost.Proofs.Installer.Agreement

/-!
# Copies that fail

What is in the place of a copy is removed before anything is copied. A copy that fails before that
changes nothing but that directories may have been created. One that fails after it has lost what it
removed.

* **`Lost`**: an entry gave way to a copy that failed then. **`copyInto_error_inv`**: nothing else
  is lost by a copy that fails.
* **`Lost.link_of_isFile`**: if the source was still a file when the copy failed, the entry was a
  link to a directory.
* **`failed_install`**: both together. **`old_plugin_lost`**: it happens.
* **`install_spares_files`**: it does not happen to a file if nothing changed since the inspection.
-/

namespace PluginHost

open Interaction Transcript

namespace Installer

open FileSystem

variable {fs made fs' : FileSystem} {source directory : Path} {name : String} {l : Location}
  {e : PluginError}

/-- The destination of a copy was removed at its entry, and then the copy failed. -/
structure Lost (source directory : Path) (fs made fs' : FileSystem) (name : String) (l : Location) :
    Prop where
  named : source.fileName? = some name
  created : fs.createDirAll directory = (.ok (), made)
  other : sameFile made source (directory.join ⟨name⟩) = false
  found : made.exists? (directory.join ⟨name⟩) = true
  entry : ∃ node s, node ≠ .dir ∧ made.LeadsTo false (directory.join ⟨name⟩) ⟨l, some node, s⟩
  failed : ∃ e, (made.erase l).copy source (directory.join ⟨name⟩) = .error e
  left : fs' = made.erase l

/-- A copy that fails keeps everything, or it has lost what was in its place. -/
theorem copyInto_error_inv (h : copyInto fs source directory = (.error e, fs')) :
    fs.Within fs' ∨ ∃ made name l, Lost source directory fs made fs' name l := by
  unfold copyInto at h
  split at h
  · obtain ⟨-, rfl⟩ := Prod.mk.inj h
    exact .inl (.refl fs)
  rename_i name hname
  split at h
  · rename_i e' made hcreate
    obtain ⟨-, rfl⟩ := Prod.mk.inj h
    exact .inl (createDirAll_within hcreate)
  rename_i made hcreate
  have hmade := createDirAll_within hcreate
  dsimp only at h
  split at h
  · cases h
  rename_i hsame
  split at h
  · -- what was there could not be removed
    obtain ⟨-, rfl⟩ := Prod.mk.inj h
    exact .inl hmade
  rename_i cleared hclear
  split at h
  swap
  · cases h
  rename_i e' hcopy
  obtain ⟨-, rfl⟩ := Prod.mk.inj h
  unfold clear at hclear
  split at hclear
  · rename_i hfound
    obtain ⟨l, node, s, hentry, hnode, rfl⟩ := removeFile_inv (onPath_eq_ok hclear)
    exact .inr ⟨made, name, l, hname, hcreate, by simpa using hsame, hfound,
      ⟨node, s, hnode, hentry⟩, exists_error_of_onPath hcopy, rfl⟩
  · obtain rfl := Except.ok.inj hclear
    exact .inl hmade

namespace Lost

variable (h : Lost source directory fs made fs' name l)
include h

theorem within : fs.Within made := createDirAll_within h.created

/-- What was lost was there before: it is no directory, and only directories were created. -/
theorem exists_node : ∃ node, node ≠ .dir ∧ fs.node? l = some node ∧ made.node? l = some node := by
  obtain ⟨node, s, hnode, hentry⟩ := h.entry
  have hmade : made.node? l = some node := hentry.node_eq.symm
  exact ⟨node, hnode, (createDirAllFrom_inv h.created).node_of_ne_dir hnode hmade, hmade⟩

/-- What was at the destination is gone. -/
theorem node?_eq_none : fs'.node? l = none := by
  obtain ⟨node, hnode, -, hmade⟩ := h.exists_node
  have hne : made.node? l ≠ some .dir := by simpa [hmade] using hnode
  rw [h.left]
  exact node?_erase_self made (ne_root_of_node? hne)

/-- Everything else is kept. -/
theorem kept {m : Location} {node : Node} (hm : m ≠ l) (hn : fs.node? m = some node) :
    fs'.node? m = some node := by
  rw [h.left, node?_erase_of_ne made hm]
  exact h.within.node m node hn

/-- The source is another place than the destination leads to, and than its entry. -/
theorem ne_of_source {m b : Location} {node found : Node}
    (hsource : made.stat source = .ok (m, node))
    (hfound : made.stat (directory.join ⟨name⟩) = .ok (b, found)) : m ≠ b := by
  rintro rfl
  have hother := h.other
  unfold sameFile at hother
  rw [canonicalize_eq_ok.2 ⟨node, hsource⟩, canonicalize_eq_ok.2 ⟨found, hfound⟩] at hother
  simp at hother

/-- The copy would have succeeded if no walk got past the entry and the source was a file. -/
theorem not_isFile_of_ends (hl : made.Ends l) : fs.isFile source = false := by
  rw [Bool.eq_false_iff]
  intro hfile
  obtain ⟨m, c, hsource⟩ := isFile_iff.1 hfile
  have hsource := stat_mono h.within hsource
  have hn := Path.isName_of_fileName? h.named
  obtain ⟨b, found, hfound⟩ := exists?_iff.1 h.found
  obtain ⟨hwalk, slash, hleads, -⟩ := stat_eq_ok.1 hfound
  obtain ⟨node, s, hnode, hentry⟩ := h.entry
  have hother := h.ne_of_source hsource hfound
  have hne : m ≠ l := by
    rintro rfl
    -- the destination would lead to the source
    obtain ⟨-, here, k, hlocation, -, hlast⟩ :=
      leads_of_entry hn hentry (by simpa using hnode) hleads
    have hfile := node?_of_stat hsource
    rw [show m = here ++ [name] from hlocation] at hfile
    exact hother (hlocation.trans (hlast.location_of_file hfile).symm)
  obtain ⟨fs'', hwrite⟩ := write_erase hn hwalk hentry hl hleads c
  have hstat := stat_erase hn hentry hl hleads hsource hne hother
  obtain ⟨e, hfailed⟩ := h.failed
  unfold FileSystem.copy at hfailed
  rw [show (made.erase l).stat source = .ok (m, .file c) from hstat] at hfailed
  cases hfailed.symm.trans hwrite

/-- If the source is still a file, what was lost is a link. Then it led to a directory. -/
theorem link_of_isFile (hfile : fs.isFile source = true) :
    ∃ target, fs.node? l = some (.link target) ∧
      (fs.Grounded fs.current → made.isDir (directory.join ⟨name⟩) = true) := by
  obtain ⟨node, hnode, hfs, hmade⟩ := h.exists_node
  have hpast : ¬made.Ends l := fun hl => by simp [h.not_isFile_of_ends hl] at hfile
  cases node with
  | dir => exact absurd rfl hnode
  | file c => exact absurd (ends_of_file hmade) hpast
  | link target =>
    refine ⟨target, hfs, fun hcurrent => ?_⟩
    obtain ⟨b, found, hfound⟩ := exists?_iff.1 h.found
    obtain ⟨-, slash, hleads, -⟩ := stat_eq_ok.1 hfound
    obtain ⟨node, s, hnode', hentry⟩ := h.entry
    obtain rfl : node = .link target := by simpa [hmade] using hentry.node_eq
    refine isDir_iff.2 ⟨b, ?_⟩
    by_contra hdir
    have hgrounded : made.Grounded made.current := h.within.current ▸ hcurrent.mono h.within
    refine hpast (ends_of_entry (Path.isName_of_fileName? h.named) hentry rfl hleads ?_ hgrounded)
    intro hb
    obtain rfl : found = .dir := by simpa using hb
    exact hdir hfound

end Lost

/-- An older copy that is a regular file is always lost if the source is no file any more. -/
theorem copyInto_of_vanished {c : Content} (hname : source.fileName? = some name)
    (hcreate : fs.createDirAll directory = (.ok (), made))
    (hold : made.resolve false (directory.join ⟨name⟩) = .ok ⟨l, some (.file c), false⟩)
    (hsource : made.isFile source = false) :
    ∃ e, copyInto fs source directory = (.error e, made.erase l) := by
  obtain ⟨hwalk, hleads⟩ := resolve_eq_ok.1 hold
  have hfound : made.stat (directory.join ⟨name⟩) = .ok (l, .file c) :=
    stat_eq_ok.2 ⟨hwalk, false, Leads.following hleads (by simp), by simp⟩
  have hother : sameFile made source (directory.join ⟨name⟩) = false := by
    rw [Bool.eq_false_iff]
    intro hsame
    -- the source would be the older copy, which is a file
    rw [sameFile_comm] at hsame
    simp [isFile_iff.2 ⟨l, c, stat_of_sameFile hsame hfound⟩] at hsource
  have hremove : made.removeFile (directory.join ⟨name⟩) = .ok (made.erase l) := by
    unfold removeFile
    rw [hold]
    rfl
  obtain ⟨e, hcopy⟩ : ∃ e, (made.erase l).copy source (directory.join ⟨name⟩) = .error e := by
    cases hcopy : (made.erase l).copy source (directory.join ⟨name⟩) with
    | error e => exact ⟨e, rfl⟩
    | ok fs'' =>
      -- what is a file after the removal was one before
      obtain ⟨m, c', hfile, -⟩ := copy_inv hcopy
      have hfile := isFile_iff.2 ⟨m, c', stat_mono erase_within hfile⟩
      simp [hsource] at hfile
  refine ⟨.io (directory.join ⟨name⟩) (.io e), ?_⟩
  unfold copyInto
  rw [hname]
  dsimp only
  rw [hcreate]
  dsimp only
  rw [if_neg (by simp [hother]), clear, if_pos (exists?_iff.2 ⟨l, _, hfound⟩), hremove]
  simp only [onPath, Except.mapError, hcopy]

/-- An installation that fails keeps everything that was there, and every path that led to a file
leads to it still; or else it has lost one entry, which is no directory, and keeps everything else.
That happens where the copy fails after the entry gave way to it: the source was no regular file
then, or what was lost is a link to a directory. An older copy that is a regular file is lost
whenever the source is no file any more. -/
theorem failed_install (p : Prepared) :
    (∀ fs fs' e, p.install fs = (.error e, fs') →
      (fs.Within fs' ∧ ∀ q m c, fs.read q = .ok (m, c) → fs'.read q = .ok (m, c)) ∨
      ∃ made name l, Lost p.source p.directory fs made fs' name l ∧
        (∃ node, node ≠ .dir ∧ fs.node? l = some node) ∧ fs'.node? l = none ∧
        (∀ m node, m ≠ l → fs.node? m = some node → fs'.node? m = some node) ∧
        (fs.isFile p.source = true → ∃ target, fs.node? l = some (.link target) ∧
          (fs.Grounded fs.current → made.isDir (p.directory.join ⟨name⟩) = true))) ∧
    ∀ fs made name l c, p.source.fileName? = some name →
      fs.createDirAll p.directory = (.ok (), made) →
      made.resolve false (p.directory.join ⟨name⟩) = .ok ⟨l, some (.file c), false⟩ →
      made.isFile p.source = false → ∃ e, p.install fs = (.error e, made.erase l) := by
  refine ⟨fun fs fs' e h => ?_, fun fs made name l c hname hcreate hold hsource =>
    copyInto_of_vanished hname hcreate hold hsource⟩
  rcases copyInto_error_inv h with hw | ⟨made, name, l, hlost⟩
  · exact .inl ⟨hw, fun q m c hq => read_eq_ok.2 (stat_mono hw (read_eq_ok.1 hq))⟩
  · obtain ⟨node, hnode, hfs, -⟩ := hlost.exists_node
    exact .inr ⟨made, name, l, hlost, ⟨node, hnode, hfs⟩, hlost.node?_eq_none,
      fun m node hm hn => hlost.kept hm hn, hlost.link_of_isFile⟩

/-- An inspection and the copy at once lose nothing but a link to a directory. -/
theorem install_spares_files {target f : Path} {t : Transcript}
    (h : Yields (install fs target f) t (.error e, fs')) :
    fs.Within fs' ∨ ∃ made name l link, Lost f target fs made fs' name l ∧
      fs.node? l = some (.link link) ∧
      (fs.Grounded fs.current → made.isDir (target.join ⟨name⟩) = true) := by
  obtain ⟨y, hy, hz⟩ := install_inv h
  cases inspect_inv hy with
  | unfit =>
    obtain ⟨-, rfl⟩ := Prod.mk.inj hz
    exact .inl (.refl _)
  | refused =>
    obtain ⟨-, rfl⟩ := Prod.mk.inj hz
    exact .inl (.refl _)
  | accepted hfile =>
    rcases copyInto_error_inv hz.symm with hw | ⟨made, name, l, hlost⟩
    · exact .inl hw
    · obtain ⟨link, hlink, hdir⟩ := hlost.link_of_isFile hfile
      exact .inr ⟨made, name, l, link, hlost, hlink, hdir⟩

end Installer

/-! ## An older copy and a link to a directory -/

namespace Shelf

/-- A library, and an older copy of it in the directory of plugins. -/
def stocked : FileSystem :=
  ⟨[], [(["in"], .dir), (["in", "x.so"], .file (.library "x")), (["lib"], .dir),
    (["lib", "x.so"], .file (.library "older"))]⟩

/-- What an inspection of the library tells. -/
def prepared : Installer.Prepared :=
  ⟨⟨"/in/x.so"⟩, ⟨"/lib"⟩, ⟨1, "Unknown plugin", ⟨0, 0, 0⟩, ⟨1, 0, 0⟩, "Unknown",
    "No description provided", some ⟨"/in/x.so"⟩, .current, false, false, ⟨0⟩, false, false⟩⟩

/-- The same after the library was taken away. -/
def depleted : FileSystem := stocked.erase ["in", "x.so"]

/-- A directory with a library, and a link to it that has the name of the library. -/
def crossed : FileSystem :=
  ⟨[], [(["d"], .dir), (["d", "x.so"], .file (.library "x")), (["lib"], .dir),
    (["lib", "x.so"], .link ⟨"../d"⟩)]⟩

end Shelf

namespace Installer

/-- The library vanished and the older copy is lost, which is a regular file. A link that led to a
directory is lost while the library is there. -/
theorem failed_install_shelf :
    let y := Shelf.prepared.install Shelf.depleted
    let z := (Prepared.mk ⟨"/lib/x.so/x.so"⟩ ⟨"/lib"⟩ Shelf.prepared.info).install Shelf.crossed
    (∃ e, y = (.error e, Shelf.depleted.erase ["lib", "x.so"])) ∧
      ∃ made name target,
        Lost ⟨"/lib/x.so/x.so"⟩ ⟨"/lib"⟩ Shelf.crossed made z.2 name ["lib", "x.so"] ∧
        Shelf.crossed.node? ["lib", "x.so"] = some (.link target) := by
  intro y z
  obtain ⟨-, hvanished⟩ := failed_install Shelf.prepared
  obtain ⟨hfailed, -⟩ := failed_install ⟨⟨"/lib/x.so/x.so"⟩, ⟨"/lib"⟩, Shelf.prepared.info⟩
  refine ⟨hvanished Shelf.depleted Shelf.depleted "x.so" ["lib", "x.so"] (.library "older") rfl
    (by decide +kernel) (by decide +kernel) (by decide +kernel), ?_⟩
  have hz : z =
      (.error (.io ⟨"/lib/x.so"⟩ (.io .notFound)), Shelf.crossed.erase ["lib", "x.so"]) := by
    decide +kernel
  rcases hfailed Shelf.crossed _ _ hz with ⟨hw, -⟩ | ⟨made, name, l, hlost, -, -, hkept, hlink⟩
  · -- the link is not there any more
    have hgone := hw.node ["lib", "x.so"] (.link ⟨"../d"⟩) (by decide)
    cases hgone
  · have hl : l = ["lib", "x.so"] := by
      by_contra hne
      have hgone := hkept ["lib", "x.so"] (.link ⟨"../d"⟩) (Ne.symm hne) (by decide)
      cases hgone
    subst hl
    obtain ⟨target, htarget, -⟩ := hlink (by decide +kernel)
    exact ⟨made, name, target, hz ▸ hlost, htarget⟩

/-- A library is inspected, then it vanishes, and the installation fails. The older copy is lost. If
the library is found by way of the link that it is to replace, the link is lost and the library is
not found any more. -/
theorem old_plugin_lost :
    let x := ((inspect Shelf.stocked ⟨"/lib"⟩ ⟨"/in/x.so"⟩).record Attic.nature.answer).2
    let y := Shelf.prepared.install Shelf.depleted
    let z := ((install Shelf.crossed ⟨"/lib"⟩ ⟨"/lib/x.so/x.so"⟩).record Attic.nature.answer).2
    (x = .ok Shelf.prepared ∧ y.1 = .error (.io ⟨"/lib/x.so"⟩ (.io .notFound)) ∧
      Shelf.depleted.read ⟨"/lib/x.so"⟩ = .ok (["lib", "x.so"], .library "older") ∧
      y.2.read ⟨"/lib/x.so"⟩ = .error .notFound) ∧
    z.1 = .error (.io ⟨"/lib/x.so"⟩ (.io .notFound)) ∧
      Shelf.crossed.read ⟨"/lib/x.so/x.so"⟩ = .ok (["d", "x.so"], .library "x") ∧
      z.2.read ⟨"/lib/x.so/x.so"⟩ = .error .notFound ∧ z.2.node? ["lib", "x.so"] = none := by
  decide +kernel

end Installer
end PluginHost
