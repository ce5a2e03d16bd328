import PluginHost.Proofs.FileSystem.Entry
import PluginHost.Proofs.Installer.Copy

/-!
# What a copy touches

A copy that succeeds leaves one file with the content of the source, and nothing else changes but
for directories on the way. The file is at the entry of the destination, unless a link is there that
leads to nothing: such a link is not seen, and the file is written where it leads.

* **`KeepsFilesBut`**: only the regular file at the path differs.
* **`Placed`**: where the file is. **`Copied.placed`**: every copy is one of these.
* **`copyInto_frame`**: what a copy does to the whole file system. **`copied_through_link`**: a file
  appears somewhere else.
-/

namespace PluginHost
namespace Installer

open FileSystem

variable {fs made fs' : FileSystem} {source directory p : Path} {n : String} {l : Location}
  {c : Content}

/-- No regular file was created, changed or removed but the one at the path itself. -/
def KeepsFilesBut (p : Path) (fs fs' : FileSystem) : Prop :=
  ∀ l, (∀ c, fs'.node? l = some (.file c) ↔ fs.node? l = some (.file c)) ∨
    ∃ c, fs'.resolve false p = .ok ⟨l, some (.file c), false⟩

/-- What became of the destination of a copy once its directory was there. -/
inductive Placed (made : FileSystem) (p : Path) (fs' : FileSystem) : Prop
  | kept (h : fs' = made) (hd : ¬made.Dangles p)
  | entry {l : Location} {c : Content} (hd : ¬made.Dangles p)
      (hentry : fs'.resolve false p = .ok ⟨l, some (.file c), false⟩)
      (hothers : ∀ m, m ≠ l → fs'.node? m = made.node? m)
  | through {l m : Location} {target : Path} {c : Content} (hd : made.Dangles p)
      (hentry : fs'.resolve false p = .ok ⟨l, some (.link target), false⟩)
      (hfree : made.node? m = none) (hnew : fs'.node? m = some (.file c))
      (hread : fs'.read p = .ok (m, c)) (hothers : ∀ m', m' ≠ m → fs'.node? m' = made.node? m')

/-- A file that is copied onto itself is kept; any other becomes a new entry, or is written through
a dangling link. -/
theorem Copied.placed (hn : Path.IsName n) (h : Copied source (directory.join ⟨n⟩) made fs') :
    Placed made (directory.join ⟨n⟩) fs' := by
  cases h with
  | same h => exact .kept rfl (not_dangles_of_exists (exists_of_sameFile h))
  | fresh hfree h =>
    obtain ⟨_, c, -, hwrite⟩ := copy_inv h
    cases write_inv_of_free hn hwrite hfree with
    | entry hp hnone hentry =>
      refine .entry ?_ hentry fun m hm => node?_put_of_ne made hm _
      rintro ⟨-, l, target, slash, hlink⟩
      cases hnone.symm.trans (node?_of_entry hn hlink (by simp) hp)
    | through hfree' hlink hentry hread =>
      refine .through ⟨hfree, _, _, _, hlink⟩ hentry hfree' ?_ hread
        fun m' hm' => node?_put_of_ne made hm' _
      exact node?_of_stat (read_eq_ok.1 hread)
  | replaced hfound hr h =>
    obtain ⟨l, node, s, hold, hne, rfl⟩ := removeFile_inv hr
    obtain ⟨_, c, -, hwrite⟩ := copy_inv h
    obtain ⟨rfl, hentry⟩ := write_inv_of_erase hn hold (by simpa using hne) hwrite
    refine .entry (not_dangles_of_exists hfound) hentry fun m hm => ?_
    rw [node?_put_of_ne _ hm, node?_erase_of_ne _ hm]

/-- Other files are kept if and only if no dangling link is written through. -/
theorem Placed.keepsFilesBut_iff (h : Placed made p fs')
    (hcreate : fs.createDirAll directory = (.ok (), made)) :
    KeepsFilesBut p fs fs' ↔ ¬made.Dangles p := by
  cases h with
  | kept h hd =>
    subst h
    exact iff_of_true (fun l => .inl fun c => file_iff_of_createDirAll hcreate) hd
  | @entry l c hd hentry hothers =>
    refine iff_of_true (fun m => ?_) hd
    by_cases hm : m = l
    · exact .inr ⟨c, hm ▸ hentry⟩
    · exact .inl fun c => by rw [hothers m hm, file_iff_of_createDirAll hcreate]
  | @through l m target c hd hentry hfree hnew =>
    refine iff_of_false (fun hkeeps => ?_) (not_not_intro hd)
    rcases hkeeps m with hsame | ⟨c', hat⟩
    · -- there was nothing where the link leads
      have hmade := file_iff_of_createDirAll hcreate |>.2 ((hsame c).1 hnew)
      cases hfree.symm.trans hmade
    · cases hentry.symm.trans hat

/-- What is at a place after a copy: what was there when the directory had been created, or the file
that is read at the destination. -/
theorem Placed.node?_cases (h : Placed made p fs') (l : Location) :
    fs'.node? l = made.node? l ∨ ∃ c, fs'.read p = .ok (l, c) := by
  cases h with
  | kept h => exact .inl (by rw [h])
  | @entry m c _ hentry hothers =>
    by_cases hl : l = m
    · exact .inr ⟨c, hl ▸ read_of_resolve hentry⟩
    · exact .inl (hothers l hl)
  | @through _ m _ c _ _ _ _ hread hothers =>
    by_cases hl : l = m
    · exact .inr ⟨c, hl ▸ hread⟩
    · exact .inl (hothers l hl)

/-- The source still has its content after a copy. -/
theorem Copied.source_eq (hn : Path.IsName n) (h : Copied source (directory.join ⟨n⟩) made fs')
    (hs : made.stat source = .ok (l, .file c)) :
    fs'.read source = .ok (l, c) := by
  refine read_eq_ok.2 ?_
  cases h with
  | same => exact hs
  | fresh hfree h =>
    obtain ⟨_, _, -, hwrite⟩ := copy_inv h
    exact stat_mono (write_within hwrite hfree) hs
  | replaced hfound hr h =>
    obtain ⟨l', node, s, hold, hne, rfl⟩ := removeFile_inv hr
    obtain ⟨l₁, c₁, hs₁, hwrite⟩ := copy_inv h
    -- the copy found the source where it was before the removal
    obtain ⟨rfl, rfl⟩ : l = l₁ ∧ c = c₁ := by simpa [hs] using stat_mono erase_within hs₁
    have hfree := exists_of_erase hn hold (by simpa using hne)
    exact stat_mono (write_within hwrite hfree) hs₁

/-- A copy that succeeds is at the path of the directory with the name of the source. It has the
content that the source had and still has. Every other place is as it was, but for directories that
are the directory itself or above it. No regular file but the one at the path itself is created,
changed or removed, unless the path names a link that leads to nothing. -/
theorem copyInto_frame (h : copyInto fs source directory = (.ok p, fs')) :
    ∃ name made, source.fileName? = some name ∧ p = directory.join ⟨name⟩ ∧
      fs.createDirAll directory = (.ok (), made) ∧
      (∀ l c, fs.read source = .ok (l, c) →
        fs'.read source = .ok (l, c) ∧ ∃ m, fs'.read p = .ok (m, c)) ∧
      (∀ l, fs'.node? l = fs.node? l ∨
        (fs.node? l = none ∧ fs'.node? l = some .dir ∧
          ∃ q, AtOrAbove q directory ∧ made.stat q = .ok (l, .dir)) ∨
        ∃ c, fs'.read p = .ok (l, c)) ∧
      (KeepsFilesBut p fs fs' ↔ ¬made.Dangles p) := by
  obtain ⟨name, made, hname, rfl, hcreate, hcopied⟩ := copyInto_inv h
  have hn := Path.isName_of_fileName? hname
  have hplaced := hcopied.placed hn
  refine ⟨name, made, hname, rfl, hcreate, fun l c hs => ?_, fun l => ?_,
    hplaced.keepsFilesBut_iff hcreate⟩
  · have hmade := stat_mono (createDirAll_within hcreate) (read_eq_ok.1 hs)
    exact ⟨hcopied.source_eq hn hmade, hcopied.read_eq hmade⟩
  · rcases hplaced.node?_cases l with hkept | hread
    · rw [hkept]
      rcases (createDirAllFrom_inv hcreate).node?_cases l with hsame | hdir
      · exact .inl hsame
      · exact .inr (.inl hdir)
    · exact .inr (.inr hread)

end Installer

/-! ## Links in the place of a copy -/

namespace Shelf

/-- A library, and a link of its name in the directory of plugins. -/
def linked (target : String) : FileSystem :=
  ⟨[], [(["in"], .dir), (["in", "x.so"], .file (.library "x")), (["y.so"], .file (.library "y")),
    (["lib"], .dir), (["lib", "x.so"], .link ⟨target⟩)]⟩

end Shelf

namespace Installer

open FileSystem

/-- A link to another library gives way to the copy, and the other library is kept. -/
theorem copyInto_frame_linked :
    let fs := Shelf.linked "../y.so"
    let y := copyInto fs ⟨"/in/x.so"⟩ ⟨"/lib"⟩
    y.1 = .ok ⟨"/lib/x.so"⟩ ∧ KeepsFilesBut ⟨"/lib/x.so"⟩ fs y.2 ∧
      ∃ m, y.2.read ⟨"/lib/x.so"⟩ = .ok (m, .library "x") := by
  intro fs y
  have hy : y.1 = .ok ⟨"/lib/x.so"⟩ := by decide +kernel
  obtain ⟨name, made, hname, hp, hcreate, hsource, -, hkeeps⟩ :=
    copyInto_frame (show copyInto fs ⟨"/in/x.so"⟩ ⟨"/lib"⟩ = (.ok ⟨"/lib/x.so"⟩, y.2) from
      Prod.ext hy rfl)
  obtain ⟨-, hread⟩ := hsource ["in", "x.so"] (.library "x") (by decide +kernel)
  -- the link leads to something, also once the directory was made sure of
  have hfound : fs.exists? ⟨"/lib/x.so"⟩ = true := by decide +kernel
  obtain ⟨l, node, hstat⟩ := exists?_iff.1 hfound
  have hmade := exists?_iff.2 ⟨l, node, stat_mono (createDirAll_within hcreate) hstat⟩
  exact ⟨hy, hkeeps.2 (not_dangles_of_exists hmade), hread⟩

/-- A link that leads to nothing stays, and the copy is written where it leads. -/
theorem copied_through_link :
    let fs := Shelf.linked "../none"
    let y := copyInto fs ⟨"/in/x.so"⟩ ⟨"/lib"⟩
    y.1 = .ok ⟨"/lib/x.so"⟩ ∧ y.2.node? ["lib", "x.so"] = some (.link ⟨"../none"⟩) ∧
      fs.node? ["none"] = none ∧ y.2.node? ["none"] = some (.file (.library "x")) ∧
      ¬KeepsFilesBut ⟨"/lib/x.so"⟩ fs y.2 := by
  intro fs y
  have hfree : fs.node? ["none"] = none := by decide +kernel
  have hnew : y.2.node? ["none"] = some (.file (.library "x")) := by decide +kernel
  have hentry : y.2.resolve false ⟨"/lib/x.so"⟩ =
      .ok ⟨["lib", "x.so"], some (.link ⟨"../none"⟩), false⟩ := by decide +kernel
  refine ⟨by decide +kernel, by decide +kernel, hfree, hnew, fun hkeeps => ?_⟩
  rcases hkeeps ["none"] with hsame | ⟨c, hat⟩
  · cases hfree.symm.trans ((hsame _).1 hnew)
  · simp [hentry] at hat

end Installer
end PluginHost
