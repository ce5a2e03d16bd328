import PluginHost.Installer
import PluginHost.Proofs.FileSystem.Commands

/-!
# Copying into a directory

* **`Copied`** and **`copyInto_inv`**: the ways in which a copy succeeds.
* **`listed_of_copyInto`**: whoever reads the directory afterwards finds the copy there, with the
  content of the source, unless the path of the directory is empty.
-/

namespace PluginHost
namespace Installer

open FileSystem

variable {fs fs' : FileSystem} {source directory p : Path} {n : String} {l : Location} {c : Content}

/-- The file is there already, or what is in its place gives way to it. -/
inductive Copied (source destination : Path) : FileSystem → FileSystem → Prop
  | same {fs : FileSystem} (h : sameFile fs source destination = true) :
      Copied source destination fs fs
  | fresh {fs fs' : FileSystem} (hfree : fs.exists? destination = false)
      (h : fs.copy source destination = .ok fs') : Copied source destination fs fs'
  | replaced {fs fs₁ fs' : FileSystem} (hfound : fs.exists? destination = true)
      (hr : fs.removeFile destination = .ok fs₁)
      (h : fs₁.copy source destination = .ok fs') : Copied source destination fs fs'

theorem onPath_eq_ok {α : Type} {r : Except IoError α} {x : α} (h : onPath p r = .ok x) :
    r = .ok x := by
  cases r with
  | error e => simp [onPath, Except.mapError] at h
  | ok y => simpa [onPath, Except.mapError] using h

theorem exists_error_of_onPath {α : Type} {r : Except IoError α} {e : PluginError}
    (h : onPath p r = .error e) : ∃ e, r = .error e := by
  cases r with
  | error e => exact ⟨e, rfl⟩
  | ok x => cases h

/-- **How a file is copied into a directory.** The directory is made if it is not there; nothing
else happens if source and destination are the same file, and otherwise the content is put in place
of what was there. -/
theorem copyInto_inv (h : copyInto fs source directory = (.ok p, fs')) :
    ∃ n fs₁, source.fileName? = some n ∧ p = directory.join ⟨n⟩ ∧
      fs.createDirAll directory = (.ok (), fs₁) ∧ Copied source p fs₁ fs' := by
  unfold copyInto at h
  split at h
  · simp at h
  rename_i n hname
  split at h
  · simp at h
  rename_i fs₁ hcreate
  dsimp only at h
  split at h
  · rename_i hsame
    simp only [Prod.mk.injEq, Except.ok.injEq] at h
    obtain ⟨rfl, rfl⟩ := h
    exact ⟨n, fs₁, hname, rfl, hcreate, .same hsame⟩
  split at h
  · simp at h
  rename_i fs₂ hclear
  split at h
  · simp at h
  rename_i fs₃ hcopy
  simp only [Prod.mk.injEq, Except.ok.injEq] at h
  obtain ⟨rfl, rfl⟩ := h
  have hcopy := onPath_eq_ok hcopy
  refine ⟨n, fs₁, hname, rfl, hcreate, ?_⟩
  unfold clear at hclear
  split at hclear
  · rename_i hfound
    exact .replaced hfound (onPath_eq_ok hclear) hcopy
  · rename_i hfree
    obtain rfl := Except.ok.inj hclear
    exact .fresh (by simpa using hfree) hcopy

/-- It does not matter which of the two is the source. -/
theorem sameFile_comm {a b : Path} : sameFile fs a b = sameFile fs b a := by
  unfold sameFile
  cases fs.canonicalize a with
  | error => cases fs.canonicalize b <;> rfl
  | ok l =>
    cases fs.canonicalize b with
    | error => rfl
    | ok m => exact Bool.beq_comm ..

/-- Both paths lead to one file. -/
theorem stat_of_sameFile {a b : Path} {node : Node} (h : sameFile fs a b = true)
    (ha : fs.stat a = .ok (l, node)) : fs.stat b = .ok (l, node) := by
  unfold sameFile at h
  split at h
  · rename_i m m' hm hm'
    obtain rfl : m = m' := by simpa using h
    obtain ⟨node₁, h₁⟩ := canonicalize_eq_ok.1 hm
    obtain ⟨node₂, h₂⟩ := canonicalize_eq_ok.1 hm'
    obtain ⟨rfl, rfl⟩ : l = m ∧ node = node₁ := by simpa [ha] using h₁
    have hnode := (node?_of_stat h₁).symm.trans (node?_of_stat h₂)
    rw [h₂, Option.some.inj hnode]
  · simp at h

/-- What is the same file as the source is there. -/
theorem exists_of_sameFile (h : sameFile fs source p = true) : fs.exists? p = true := by
  unfold sameFile at h
  split at h
  · rename_i l m hl hm
    obtain ⟨node, hstat⟩ := canonicalize_eq_ok.1 hm
    exact exists?_iff.2 ⟨m, node, hstat⟩
  · cases h

/-- A copy has the content of the source. -/
theorem Copied.read_eq (h : Copied source p fs fs') (hs : fs.stat source = .ok (l, .file c)) :
    ∃ m, fs'.read p = .ok (m, c) := by
  -- the copy was written with what the source held in the end, which is what it held at first
  have hcopy {fs₁ : FileSystem} (hw : fs₁.Within fs) (h : fs₁.copy source p = .ok fs') :
      ∃ m, fs'.read p = .ok (m, c) := by
    obtain ⟨l', c', hs', hwrite⟩ := copy_inv h
    have hagain := stat_mono hw hs'
    obtain ⟨rfl, rfl⟩ : l = l' ∧ c = c' := by simpa [hs] using hagain
    obtain ⟨m, hm⟩ := stat_of_write hwrite
    exact ⟨m, read_eq_ok.2 hm⟩
  cases h with
  | same h => exact ⟨l, read_eq_ok.2 (stat_of_sameFile h hs)⟩
  | fresh _ h => exact hcopy (.refl fs) h
  | replaced _ hr h =>
    obtain ⟨l', node, s, -, -, rfl⟩ := removeFile_inv hr
    exact hcopy erase_within h

/-- A copy is listed in the directory. -/
theorem Copied.listed (h : Copied source (directory.join ⟨n⟩) fs fs') (hd : directory.text ≠ "")
    (hn : Path.IsName n) (hdir : fs.isDir directory = true)
    (hs : fs.stat source = .ok (l, .file c)) :
    ∃ names, fs'.readDir directory = .ok names ∧ n ∈ names := by
  obtain ⟨ld, hstat⟩ := isDir_iff.1 hdir
  obtain ⟨hp, s, hl, -⟩ := stat_eq_ok.1 hstat
  have hnode := node?_of_stat hstat
  cases h with
  | same h =>
    obtain ⟨-, s', hfile, -⟩ := stat_eq_ok.1 (stat_of_sameFile h hs)
    obtain ⟨k, m, he, hlast⟩ := leadsTo_join hd hn hfile
    obtain rfl : ld = m := he.location_eq hl
    refine mem_readDir hstat ?_
    cases hlast with
    | file hs hn => simp [hn]
    | dir hs hn h => simp [hn]
    | link hs hn ht hf h => simp [hn]
  | fresh _ h =>
    obtain ⟨l', c', -, hwrite⟩ := copy_inv h
    refine listed_of_write hd hn hp (fun k m he => ?_) hwrite
    rwa [← he.location_eq hl]
  | replaced _ hr h =>
    -- what gave way is a file or a link, so it is not the directory
    obtain ⟨l', node, s', hold, hne, rfl⟩ := removeFile_inv hr
    obtain ⟨_, c', -, hwrite⟩ := copy_inv h
    refine listed_of_write hd hn hp (fun k m he => ?_) hwrite
    obtain rfl : ld = m := (he.mono erase_within).location_eq hl
    have hlm : ld ≠ l' := by
      rintro rfl
      exact hne (Option.some.inj (hold.node_eq.trans hnode))
    rw [node?_erase_of_ne fs hlm, hnode]

/-- Whoever reads the directory after a copy finds it there, with the content that the source
had. -/
theorem listed_of_copyInto (h : copyInto fs source directory = (.ok p, fs'))
    (hd : directory.text ≠ "") (hs : fs.read source = .ok (l, c)) :
    ∃ n names, source.fileName? = some n ∧ p = directory.join ⟨n⟩ ∧
      fs'.readDir directory = .ok names ∧ n ∈ names ∧ ∃ m, fs'.read p = .ok (m, c) := by
  obtain ⟨n, fs₁, hname, rfl, hcreate, hcopied⟩ := copyInto_inv h
  have hn := Path.isName_of_fileName? hname
  have hs₁ := stat_mono (createDirAll_within hcreate) (read_eq_ok.1 hs)
  have hdir := isDir_of_createDirAll hcreate hd
  obtain ⟨names, hnames, hmem⟩ := hcopied.listed hd hn hdir hs₁
  exact ⟨n, names, hname, rfl, hnames, hmem, hcopied.read_eq hs₁⟩

end Installer
end PluginHost
