import PluginHost.Proofs.Installer.Copy
import PluginHost.Proofs.Registry.Candidates

/-!
# Inspection and scan agree

A file is inspected before it is copied, and a scan decides what is registered. The two are written
separately, but accept the same files where libraries answer by their content.

* **`Inspected`** and **`inspect_inv`**: the ways in which an inspection ends. **`probes_inspect`**:
  it loads the file, asks it about itself and releases it.
* **`agree_tryOut`**: a library is tried in an inspection as in a scan.
* **`accepted_iff_registered`**: it is accepted by the one iff it is registered by the other.
* **`inspection_agrees_with_scan`**: inspections, installations and scans of the same files. What
  was installed is registered by the next scan, unless the path of the directory is empty.
-/

namespace PluginHost

open Interaction Transcript

namespace Installer

variable {fs fs' : FileSystem} {target f path p : Path} {source : Source} {t u : Transcript}
  {nature : Nature} {content : Content} {r : Registry} {ledger : Ledger} {l : Location}

/-! ## Inspection -/

/-- Whatever can be a library by its path is tried, and asked about itself if it is a plugin. -/
inductive Inspected (fs : FileSystem) (target f : Path) :
    Transcript → Except PluginError Prepared → Prop
  | unfit (h : ¬ (fs.isFile f = true ∧ f.isPluginLibrary = true)) (e : PluginError) :
      Inspected fs target f [] (.error e)
  | refused {t : Transcript} {e : PluginError} (hfile : fs.isFile f = true)
      (hlib : f.isPluginLibrary = true)
      (h : Yields (tryOut (Registry.librarySource fs f) f) t (.error e)) :
      Inspected fs target f t (.error e)
  | accepted {t u v : Transcript} {p : Plugin} {info : PluginInfo} (hfile : fs.isFile f = true)
      (hlib : f.isPluginLibrary = true)
      (h : Yields (tryOut (Registry.librarySource fs f) f) t (.ok p)) (hi : Yields p.info u info)
      (hd : Yields p.drop v ()) : Inspected fs target f (t ++ (u ++ v)) (.ok ⟨f, target, info⟩)

/-- **How a file is inspected.** It must be a file with the name of a library, from which one of the
generations makes a plugin; that is asked about itself and dropped. -/
theorem inspect_inv {y : Except PluginError Prepared} (h : Yields (inspect fs target f) t y) :
    Inspected fs target f t y := by
  unfold inspect at h
  split at h
  · rename_i hfile
    obtain ⟨rfl, rfl⟩ := yields_done.1 h
    exact .unfit (fun hfit => by simp [hfit.1] at hfile) _
  rename_i hfile
  split at h
  · rename_i hlib
    obtain ⟨rfl, rfl⟩ := yields_done.1 h
    exact .unfit (fun hfit => by simp [hfit.2] at hlib) _
  rename_i hlib
  have hfile : fs.isFile f = true := by simpa using hfile
  have hlib : f.isPluginLibrary = true := by simpa using hlib
  obtain ⟨t₁, _, x, rfl, h₁, h₂⟩ := yields_bind.1 h
  cases x with
  | error e =>
    obtain ⟨rfl, rfl⟩ := yields_done.1 h₂
    rw [List.append_nil]
    exact .refused hfile hlib h₁
  | ok p =>
    obtain ⟨t₂, _, info, rfl, h₃, h₄⟩ := yields_bind.1 h₂
    obtain ⟨t₃, _, _, rfl, h₅, h₆⟩ := yields_bind.1 h₄
    obtain ⟨rfl, rfl⟩ := yields_done.1 h₆
    rw [List.append_nil]
    exact .accepted hfile hlib h₁ h₃ h₅

/-- The plugin has been created and not been started. Its identity counts from one. -/
theorem tryOut_inv {p : Plugin} (h : Yields (tryOut source f) t (.ok p)) :
    p.who.source = source ∧ p.loaded = false ∧ (p.id = 1 ∨ p.id = 2) := by
  obtain ⟨t₁, _, ⟨result, l⟩, rfl, h₁, h₂⟩ := yields_bind.1 h
  have hfirst := Plugin.attempt_inv h₁
  cases result with
  | ok q =>
    obtain ⟨-, hp⟩ := yields_done.1 h₂
    obtain rfl : p = q := Except.ok.inj hp
    exact ⟨hfirst.source_eq.1, hfirst.born.unloaded, .inl hfirst.id_eq.1⟩
  | error e =>
    obtain ⟨t₂, _, ⟨result, l'⟩, rfl, h₃, h₄⟩ := yields_bind.1 h₂
    have hsecond := Plugin.attempt_inv h₃
    cases result with
    | error e' =>
      obtain ⟨-, hp⟩ := yields_done.1 h₄
      simp at hp
    | ok q =>
      obtain ⟨-, hp⟩ := yields_done.1 h₄
      obtain rfl : p = q := Except.ok.inj hp
      refine ⟨hsecond.source_eq.1, hsecond.born.unloaded, ?_⟩
      rw [hsecond.id_eq.1]
      -- the first attempt has spent an identity if there was code
      cases hfirst with
      | unmapped => exact .inl rfl
      | refused => exact .inr rfl

/-- Trying a source out is a probe of it. -/
theorem probes_tryOut : Probes source (tryOut source f) := by
  refine Plugin.probes_create.bind fun _ x _ => ?_
  obtain ⟨result, l⟩ := x
  cases result with
  | ok p => exact probes_done
  | error e =>
    refine Plugin.probes_create.bind fun _ x _ => ?_
    obtain ⟨result, l'⟩ := x
    cases result with
    | ok p => exact probes_done
    | error e' => exact probes_done

/-- A plugin that was not started is only released. -/
theorem probes_drop {p : Plugin} (hl : p.loaded = false) : Probes p.who.source p.drop := by
  have hshutdown : p.shutdown = done p := by
    unfold Plugin.shutdown
    rw [hl]
    rfl
  unfold Plugin.drop
  rw [hshutdown]
  exact probes_call (.inr (.inl rfl))

/-- An inspection is a probe of the file. -/
theorem probes_inspect : Probes (Registry.librarySource fs f) (inspect fs target f) := by
  intro t y hy e he
  cases inspect_inv hy with
  | unfit => simp at he
  | refused hfile hlib h => exact probes_tryOut _ _ h e he
  | accepted hfile hlib h hi hd =>
    obtain ⟨hsource, hl, -⟩ := tryOut_inv h
    rw [← hsource]
    rcases List.mem_append.1 he with he | he
    · rw [hsource]
      exact probes_tryOut _ _ h e he
    · rcases List.mem_append.1 he with he | he
      · exact Plugin.probes_info _ _ hi e he
      · exact probes_drop hl _ _ hd e he

/-- What is told of a plugin includes its identity. -/
theorem id_of_info {p : Plugin} {info : PluginInfo} (h : Yields p.info t info) :
    info.id = p.id := by
  obtain ⟨_, _, _, rfl, -, h⟩ := yields_bind.1 h
  obtain ⟨_, _, _, rfl, -, h⟩ := yields_bind.1 h
  obtain ⟨_, _, _, rfl, -, h⟩ := yields_bind.1 h
  obtain ⟨_, _, _, rfl, -, h⟩ := yields_bind.1 h
  obtain ⟨_, _, _, rfl, -, h⟩ := yields_bind.1 h
  obtain ⟨_, _, _, rfl, -, h⟩ := yields_bind.1 h
  rw [(yields_done.1 h).2]

/-! ## The same attempts -/

/-- A library that is read from a file holds its content. -/
theorem holds_librarySource (h : fs.read f = .ok (l, content)) :
    (Registry.librarySource fs f).Holds content := by
  refine ⟨f, l, ?_⟩
  unfold Registry.librarySource
  rw [h]
  rfl

/-- A library is tried alike in an inspection and in a scan. -/
theorem agree_tryOut (hs : source.Holds content)
    (hs' : (Registry.librarySource fs path).Holds content) :
    Agree nature (fun x y => x.toOption.map Plugin.kind = y.1.map Plugin.kind) (tryOut source f)
      (Registry.instantiate fs ledger path) := by
  refine (Plugin.agree_create hs hs').bind ?_
  rintro ⟨x, l⟩ ⟨y, l'⟩ hxy
  cases x with
  | ok p =>
    cases y with
    | ok q => exact agree_done hxy
    | error e => simp [Except.toOption] at hxy
  | error e =>
    cases y with
    | ok q => simp [Except.toOption] at hxy
    | error e' =>
      refine (Plugin.agree_create hs hs').bind ?_
      rintro ⟨x, m⟩ ⟨y, m'⟩ hxy
      cases x with
      | ok p => exact agree_done hxy
      | error e => exact agree_done hxy

/-- What comes of a source depends on its content, wherever the file is. -/
theorem kind_of_tries {v : Transcript} {y : Except PluginError Plugin} {z : Option Plugin × Ledger}
    (hs : source.Holds content) (hs' : (Registry.librarySource fs path).Holds content)
    (ht : Yields (tryOut source f) t y) (hz : Yields (Registry.instantiate fs ledger path) v z)
    (hv : v ⊆ u) (hnt : t.Natural nature) (hnu : u.Natural nature) :
    y.toOption.map Plugin.kind = z.1.map Plugin.kind :=
  agree_tryOut hs hs' t y v z ht hz hnt fun e he => hnu e (hv he)

/-- A file that a directory of plugins holds under a path. It may be named by another path with the
same last name. -/
structure Held (fs : FileSystem) (directory f path : Path) : Prop where
  listed : ∃ names, fs.readDir directory = .ok names ∧ ∃ n ∈ names, path = directory.join ⟨n⟩
  same_name : f.fileName? = path.fileName?
  same_file : fs.stat f = fs.stat path

namespace Held

variable {d : Path} (h : Held fs d f path)
include h

theorem isFile_eq : fs.isFile f = fs.isFile path := by
  unfold FileSystem.isFile
  rw [h.same_file]

theorem isPluginLibrary_eq : f.isPluginLibrary = path.isPluginLibrary :=
  Path.isPluginLibrary_congr h.same_name

/-- What is in a directory of plugins and has the name of a library is a candidate. -/
theorem mem_candidateFiles {ds : PluginDirectories} (hd : d ∈ ds.toList)
    (hfile : fs.isFile f = true) (hlib : f.isPluginLibrary = true) :
    path ∈ Registry.candidateFiles fs ds := by
  obtain ⟨names, hnames, hlisted⟩ := h.listed
  rw [h.isFile_eq] at hfile
  rw [h.isPluginLibrary_eq] at hlib
  exact List.mem_flatMap.2
    ⟨d, hd, Registry.mem_libraryFiles.2 ⟨names, hnames, hlisted, hfile, hlib⟩⟩

/-- Whichever path it is named by, the same content is found. -/
theorem exists_content (hfile : fs.isFile f = true) : ∃ content,
    (Registry.librarySource fs f).Holds content ∧
      (Registry.librarySource fs path).Holds content := by
  obtain ⟨l, content, hstat⟩ := FileSystem.isFile_iff.1 hfile
  have hstat' : fs.stat path = .ok (l, .file content) := h.same_file ▸ hstat
  exact ⟨content, holds_librarySource (FileSystem.read_eq_ok.2 hstat),
    holds_librarySource (FileSystem.read_eq_ok.2 hstat')⟩

end Held

/-! ## Installation -/

/-- To install is to inspect and then to copy. -/
theorem install_inv {z : Except PluginError Path × FileSystem}
    (h : Yields (install fs target f) t z) : ∃ y, Yields (inspect fs target f) t y ∧
      z = match y with
        | .error e => (.error e, fs)
        | .ok prepared => prepared.install fs := by
  obtain ⟨t₁, _, y, rfl, h₁, h₂⟩ := yields_bind.1 h
  cases y with
  | error e =>
    obtain ⟨rfl, rfl⟩ := yields_done.1 h₂
    exact ⟨.error e, by rwa [List.append_nil], rfl⟩
  | ok prepared =>
    obtain ⟨rfl, rfl⟩ := yields_done.1 h₂
    exact ⟨.ok prepared, by rwa [List.append_nil], rfl⟩

/-- A copy of a library is a candidate of the next scan, with the content of the library. -/
theorem candidate_of_copyInto {ds : PluginDirectories} (h : copyInto fs f target = (.ok path, fs'))
    (hd : target ∈ ds.toList) (hne : target.text ≠ "") (hs : fs.read f = .ok (l, content))
    (hlib : f.isPluginLibrary = true) :
    path ∈ Registry.candidateFiles fs' ds ∧ (Registry.librarySource fs' path).Holds content := by
  obtain ⟨n, names, hname, rfl, hnames, hn, m, hcopied⟩ := listed_of_copyInto h hne hs
  have hfile : fs'.isFile (target.join ⟨n⟩) = true :=
    FileSystem.isFile_iff.2 ⟨m, content, FileSystem.read_eq_ok.1 hcopied⟩
  have hsame : (target.join ⟨n⟩).fileName? = f.fileName? := by
    rw [Path.fileName?_join hne (Path.isName_of_fileName? hname), hname]
  rw [← Path.isPluginLibrary_congr hsame] at hlib
  refine ⟨List.mem_flatMap.2 ⟨target, hd, ?_⟩, holds_librarySource hcopied⟩
  exact Registry.mem_libraryFiles.2 ⟨names, hnames, ⟨n, hn, rfl⟩, hfile, hlib⟩

/-! ## Inspection and scan -/

section

variable {x : Nat × Registry} {d : Path} (hc : r.Consistent)
  (hr : Yields (Registry.rescan fs r) u x) (hmax : x.2.ledger.ids.next ≠ lastId)
  (hnu : u.Natural nature)
include hc hr hmax hnu

/-- The two accept the same libraries. -/
theorem accepted_iff_registered {y : Except PluginError Plugin}
    (hpath : path ∈ Registry.candidateFiles fs r.directories) (hs : source.Holds content)
    (hs' : (Registry.librarySource fs path).Holds content) (ht : Yields (tryOut source f) t y)
    (hnt : t.Natural nature) : (∃ q, y = .ok q) ↔ ∃ q ∈ x.2.plugins, q.path? = some path := by
  constructor
  · rintro ⟨q, rfl⟩
    obtain ⟨l, v, z, hz, hv, hreg⟩ := Registry.registered_of_candidate hc hr hmax hpath
    have hkind := kind_of_tries hs hs' ht hz hv hnt hnu
    obtain ⟨q', hq', -⟩ := Option.map_eq_some_iff.1 hkind.symm
    exact hreg q' hq'
  · rintro ⟨q, hq, hqpath⟩
    obtain ⟨-, -, l, v, z, hz, hv, hkind⟩ := Registry.candidate_of_registered hc hr hmax hq hqpath
    have hagree := kind_of_tries hs hs' ht hz hv hnt hnu
    rw [hkind] at hagree
    cases y with
    | ok q' => exact ⟨q', rfl⟩
    | error e => simp [Except.toOption] at hagree

/-- What is accepted by the one and registered by the other says the same of itself. -/
theorem profile_eq {q q' : Plugin} {v w : Transcript} {i j : PluginInfo} (hs : source.Holds content)
    (hs' : (Registry.librarySource fs path).Holds content)
    (ht : Yields (tryOut source f) t (.ok q)) (hi : Yields q.info v i) (hq : q' ∈ x.2.plugins)
    (hpath : q'.path? = some path) (hj : Yields q'.info w j) (hnt : t.Natural nature)
    (hnv : v.Natural nature) (hnw : w.Natural nature) : i.profile = j.profile := by
  obtain ⟨-, hsource, l, v', z, hz, hv, hkind⟩ :=
    Registry.candidate_of_registered hc hr hmax hq hpath
  have hagree := kind_of_tries hs hs' ht hz hv hnt hnu
  have hsame : q.kind = q'.kind := Option.some.inj (hagree.trans hkind)
  have hheld : q.who.source.Holds content := (tryOut_inv ht).1 ▸ hs
  have hheld' : q'.who.source.Holds content := hsource ▸ hs'
  exact Plugin.agree_info hsame hheld hheld' _ _ _ _ hi hj hnv hnw

/-- A file in a directory is accepted iff it is registered. -/
theorem inspected_iff_registered {y : Except PluginError Prepared} (hd : d ∈ r.directories.toList)
    (hheld : Held fs d f path) (hy : Yields (inspect fs target f) t y) (hnt : t.Natural nature) :
    (∃ prepared, y = .ok prepared) ↔ ∃ q ∈ x.2.plugins, q.path? = some path := by
  cases inspect_inv hy with
  | unfit hunfit e =>
    refine iff_of_false (by simp) ?_
    rintro ⟨q, hq, hpath⟩
    obtain ⟨hcandidate, -⟩ := Registry.candidate_of_registered hc hr hmax hq hpath
    obtain ⟨d', -, hmem⟩ := List.mem_flatMap.1 hcandidate
    obtain ⟨-, -, -, hfile, hlib⟩ := Registry.mem_libraryFiles.1 hmem
    exact hunfit ⟨hheld.isFile_eq.trans hfile, hheld.isPluginLibrary_eq.trans hlib⟩
  | refused hfile hlib ht =>
    have hpath := hheld.mem_candidateFiles hd hfile hlib
    obtain ⟨content, hs, hs'⟩ := hheld.exists_content hfile
    rw [← accepted_iff_registered hc hr hmax hnu hpath hs hs' ht hnt]
    simp
  | accepted hfile hlib ht hi hdrop =>
    have hpath := hheld.mem_candidateFiles hd hfile hlib
    obtain ⟨content, hs, hs'⟩ := hheld.exists_content hfile
    rw [← accepted_iff_registered hc hr hmax hnu hpath hs hs' ht hnt.left]
    simp

/-- An inspection and a scan report the same. -/
theorem profile_of_inspected {prepared : Prepared} {q : Plugin} {v : Transcript} {i : PluginInfo}
    (hheld : Held fs d f path) (hy : Yields (inspect fs target f) t (.ok prepared))
    (hq : q ∈ x.2.plugins) (hpath : q.path? = some path) (hi : Yields q.info v i)
    (hnt : t.Natural nature) (hnv : v.Natural nature) : prepared.info.profile = i.profile := by
  cases inspect_inv hy with
  | accepted hfile hlib ht hinfo hdrop =>
    obtain ⟨content, hs, hs'⟩ := hheld.exists_content hfile
    exact profile_eq hc hr hmax hnu hs hs' ht hinfo hq hpath hi hnt.left hnt.right.left hnv

/-- What was installed is registered by the next scan, unless the path of the directory is empty. -/
theorem installed_iff_registered {fs₀ : FileSystem} (hd : target ∈ r.directories.toList)
    (h : Yields (install fs₀ target f) t (.ok path, fs)) (hnt : t.Natural nature) :
    (∃ q ∈ x.2.plugins, q.path? = some path) ↔ target.text ≠ "" := by
  obtain ⟨y, hy, hz⟩ := install_inv h
  cases inspect_inv hy with
  | unfit => simp at hz
  | refused => simp at hz
  | accepted hfile hlib ht hi hdrop =>
    have hcopy : copyInto fs₀ f target = (.ok path, fs) := hz.symm
    constructor
    · rintro ⟨q, hq, hpath⟩ hempty
      -- the copy has a single name, and so is in no directory
      obtain ⟨n, fs₁, hname, hjoin, -, -⟩ := copyInto_inv hcopy
      have hplain : path = ⟨n⟩ := by
        rw [hjoin]
        simp [Path.join, hempty]
      rw [hplain] at hpath
      exact Registry.path_ne_name hc hr hmax hq (Path.isName_of_fileName? hname) hpath
    · intro hne
      obtain ⟨l, content, hstat⟩ := FileSystem.isFile_iff.1 hfile
      have hread := FileSystem.read_eq_ok.2 hstat
      obtain ⟨hcandidate, hcopied⟩ := candidate_of_copyInto hcopy hd hne hread hlib
      have haccepted := accepted_iff_registered hc hr hmax hnu hcandidate
        (holds_librarySource hread) hcopied ht hnt.left
      exact haccepted.1 ⟨_, rfl⟩

end

/-- An inspection asks nobody but the file itself, takes no identity from a registry, and leaves the
files as they are. Where libraries answer by their content, it accepts a file iff a scan of a
directory with the file registers it, and both report the same; and what was installed in a
directory of plugins is registered by the next scan, unless the path of the directory is empty.
Identities have to last. -/
theorem inspection_agrees_with_scan {directories : PluginDirectories} {h : History}
    (hf : (Registry.new directories).Follows h r) (nature : Nature) (fs : FileSystem)
    (target f : Path) :
    (∀ t y, Yields (inspect fs target f) t y →
      (∀ e ∈ t, ∃ handle c,
        e.query = .plugin ⟨handle, .library f (fs.read f).toOption⟩ c ∧
          (c = .load ∨ c = .unload ∨ c.isMetadata = true)) ∧
      ∀ prepared, y = .ok prepared → prepared.info.id = 1 ∨ prepared.info.id = 2) ∧
    (∀ t z, Yields (install fs target f) t z → ∃ y, Yields (inspect fs target f) t y ∧
      z = match y with
        | .error e => (.error e, fs)
        | .ok prepared => prepared.install fs) ∧
    (∀ d path t y u x, d ∈ r.directories.toList → Held fs d f path →
      Yields (inspect fs target f) t y → Yields (Registry.rescan fs r) u x →
      t.Natural nature → u.Natural nature → x.2.ledger.ids.next ≠ lastId →
      ((∃ prepared, y = .ok prepared) ↔ ∃ q ∈ x.2.plugins, q.path? = some path) ∧
      ∀ prepared q v i, y = .ok prepared → q ∈ x.2.plugins → q.path? = some path →
        Yields q.info v i → v.Natural nature → prepared.info.profile = i.profile) ∧
    (∀ t path fs' u x, r.directories.user = some target →
      Yields (install fs target f) t (.ok path, fs') → Yields (Registry.rescan fs' r) u x →
      t.Natural nature → u.Natural nature → x.2.ledger.ids.next ≠ lastId →
      ((∃ q ∈ x.2.plugins, q.path? = some path) ↔ target.text ≠ "")) := by
  have hc := hf.consistent (Registry.consistent_new directories)
  refine ⟨fun t y hy => ⟨probes_inspect t y hy, ?_⟩, fun t z hz => install_inv hz, ?_, ?_⟩
  · rintro prepared rfl
    cases inspect_inv hy with
    | accepted hfile hlib h hi hd =>
      rw [id_of_info hi]
      exact (tryOut_inv h).2.2
  · intro d path t y u x hd hheld hy hr hnt hnu hmax
    refine ⟨inspected_iff_registered hc hr hmax hnu hd hheld hy hnt, ?_⟩
    rintro prepared q v i rfl hq hpath hi hnv
    exact profile_of_inspected hc hr hmax hnu hheld hy hq hpath hi hnt hnv
  · intro t path fs' u x huser h hr hnt hnu hmax
    have hd : target ∈ r.directories.toList := by
      unfold PluginDirectories.toList
      rw [huser]
      simp
    exact installed_iff_registered hc hr hmax hnu hd h hnt

end Installer

/-! ## A library and a link to it -/

namespace Attic

def files : FileSystem :=
  ⟨[], [(["in"], .dir), (["in", "x.so"], .file (.library "x")), (["lib"], .dir),
    (["lib", "x.so"], .link ⟨"/in/x.so"⟩)]⟩

/-- Every library is a plugin of the current interface. -/
def nature : Nature
  | _, .load => some (.ofNames "x" (EntryPoint.mandatory.map (·.symbol)))
  | _, .apiVersion => .pluginApi
  | _, c => c.silence

def registry (user : Path) : Registry := .new ⟨none, some user⟩

theorem candidateFiles_registry :
    Registry.candidateFiles files (registry ⟨"/lib"⟩).directories = [⟨"/lib/x.so"⟩] := by
  have hnames : files.readDir ⟨"/lib"⟩ = .ok ["x.so"] := by decide +kernel
  have hfiles : ((["x.so"].map fun n => (⟨"/lib"⟩ : Path).join ⟨n⟩).filter fun p =>
      files.isFile p && p.isPluginLibrary) = [⟨"/lib/x.so"⟩] := by
    decide +kernel
  have hlib : Registry.libraryFiles files ⟨"/lib"⟩ = [⟨"/lib/x.so"⟩] := by
    rw [Registry.libraryFiles, hnames]
    dsimp only
    rw [hfiles, List.mergeSort_singleton]
  change Registry.libraryFiles files ⟨"/lib"⟩ ++ [] = _
  rw [hlib, List.append_nil]

end Attic

namespace Installer

/-- The library is accepted, and registered under the path of the link. Installing it finds the link
in its place and leaves it there. -/
theorem inspection_agrees_with_scan_attic :
    let x := ((Registry.rescan Attic.files (Attic.registry ⟨"/lib"⟩)).record Attic.nature.answer).2
    let y := ((inspect Attic.files ⟨"/lib"⟩ ⟨"/in/x.so"⟩).record Attic.nature.answer).2
    let z := ((install Attic.files ⟨"/lib"⟩ ⟨"/in/x.so"⟩).record Attic.nature.answer).2
    (∃ prepared, y = .ok prepared) ∧ z = (.ok ⟨"/lib/x.so"⟩, Attic.files) ∧
      ∃ q ∈ x.2.plugins, q.path? = some ⟨"/lib/x.so"⟩ := by
  intro x y z
  have hx := yields_record Attic.nature.answer
    (Registry.rescan Attic.files (Attic.registry ⟨"/lib"⟩))
  have hy := yields_record Attic.nature.answer (inspect Attic.files ⟨"/lib"⟩ ⟨"/in/x.so"⟩)
  have hz := yields_record Attic.nature.answer (install Attic.files ⟨"/lib"⟩ ⟨"/in/x.so"⟩)
  have hnatural {α : Type} (i : Interaction α) := natural_record Attic.nature i
  have hinstalled : z = (.ok ⟨"/lib/x.so"⟩, Attic.files) := by decide +kernel
  have hmax : x.2.ledger.ids.next ≠ lastId := by
    change ((Registry.rescan Attic.files (Attic.registry ⟨"/lib"⟩)).record
      Attic.nature.answer).2.2.ledger.ids.next ≠ lastId
    rw [Registry.rescan, Attic.candidateFiles_registry]
    decide +kernel
  have hheld : Held Attic.files ⟨"/lib"⟩ ⟨"/in/x.so"⟩ ⟨"/lib/x.so"⟩ :=
    ⟨⟨["x.so"], by decide +kernel, "x.so", by simp, by decide +kernel⟩, by decide +kernel,
      by decide +kernel⟩
  obtain ⟨-, -, hagree, hregistered⟩ := inspection_agrees_with_scan
    (Registry.Follows.nil (r := Attic.registry ⟨"/lib"⟩)) Attic.nature Attic.files ⟨"/lib"⟩
    ⟨"/in/x.so"⟩
  have hfound : ∃ q ∈ x.2.plugins, q.path? = some ⟨"/lib/x.so"⟩ := by
    change Yields _ _ z at hz
    rw [hinstalled] at hz
    exact (hregistered _ _ _ _ _ rfl hz hx (hnatural _) (hnatural _) hmax).2 (by decide)
  refine ⟨?_, hinstalled, hfound⟩
  exact (hagree _ _ _ _ _ _ (List.mem_singleton_self _) hheld hy hx (hnatural _) (hnatural _)
    hmax).1.2 hfound

/-- Where the path of the directory is empty the library is copied, and the next scan finds
nothing. -/
theorem installed_unregistered :
    let z := ((install Attic.files ⟨""⟩ ⟨"/in/x.so"⟩).record Attic.nature.answer).2
    let x := ((Registry.rescan z.2 (Attic.registry ⟨""⟩)).record Attic.nature.answer).2
    z.1 = .ok ⟨"x.so"⟩ ∧ z.2.isFile ⟨"x.so"⟩ = true ∧ x.2.ledger.ids.next ≠ lastId ∧
      x.2.plugins = [] := by
  decide +kernel

end Installer

end PluginHost
