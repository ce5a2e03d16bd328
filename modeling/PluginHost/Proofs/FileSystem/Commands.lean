import PluginHost.Proofs.FileSystem.Walk
import PluginHost.Proofs.Path

/-!
# What file operations do

* **`stat_eq_ok`**, **`read_eq_ok`** and the others: what a query finds, by where its path leads.
* **`leadsTo_join`**: a file in a directory is reached through the directory.
* **`makeDir_inv`**, **`write_inv`** and the others: what a command does if it succeeds.
* **`Created`**, **`isDir_of_createDirAll`**: a directory that was created is there, unless its path
  is empty. **`Created.node?_cases`**: nothing else changes but for directories above it.
* **`listed_of_write`**: a file that was written in a directory is listed there.
-/

namespace PluginHost
namespace FileSystem

variable {fs fs' : FileSystem} {follow s : Bool} {k : Nat} {l m : Location} {a b : Arrival}
  {p d source destination : Path} {n : String} {c : Content} {node : Node} {r : Except IoError Unit}

/-! ## Queries -/

/-- What `stat` finds is where the path leads, which is a directory if the path says so. -/
theorem stat_eq_ok : fs.stat p = .ok (l, node) ↔
    Walkable p ∧ ∃ s, fs.LeadsTo true p ⟨l, some node, s⟩ ∧ (s = true → node = .dir) := by
  unfold stat
  constructor
  · intro h
    cases hr : fs.resolve true p with
    | error e => simp [hr, Except.bind] at h
    | ok a =>
      obtain ⟨hp, ha⟩ := resolve_eq_ok.1 hr
      obtain ⟨m, o, s⟩ := a
      rw [hr] at h
      change Arrival.found ⟨m, o, s⟩ = _ at h
      cases o with
      | none => simp [Arrival.found] at h
      | some node' =>
        unfold Arrival.found at h
        dsimp only at h
        split at h
        · simp at h
        · rename_i hslash
          obtain ⟨rfl, rfl⟩ := Prod.mk.inj (Except.ok.inj h)
          exact ⟨hp, s, ha, by simpa using hslash⟩
  · rintro ⟨hp, s, ha, hslash⟩
    rw [resolve_eq_ok.2 ⟨hp, ha⟩]
    change Arrival.found ⟨l, some node, s⟩ = _
    unfold Arrival.found
    dsimp only
    rw [if_neg (by simpa using hslash)]

/-- From here on, what the questions about a path come to, in terms of `stat`. -/
theorem isDir_iff : fs.isDir p = true ↔ ∃ l, fs.stat p = .ok (l, .dir) := by
  unfold isDir
  split
  · rename_i l h
    simp [h]
  · rename_i h
    simp only [Bool.false_eq_true, false_iff, not_exists]
    exact h

theorem isFile_iff : fs.isFile p = true ↔ ∃ l c, fs.stat p = .ok (l, .file c) := by
  unfold isFile
  split
  · rename_i l c h
    simp [h]
  · rename_i h
    simp only [Bool.false_eq_true, false_iff, not_exists]
    exact h

theorem exists?_iff : fs.exists? p = true ↔ ∃ l node, fs.stat p = .ok (l, node) := by
  unfold exists?
  cases h : fs.stat p with
  | error e => simp [Except.toOption]
  | ok x => simp [Except.toOption, ← Prod.exists']

theorem read_eq_ok : fs.read p = .ok (l, c) ↔ fs.stat p = .ok (l, .file c) := by
  unfold read
  cases h : fs.stat p with
  | error e => simp [Except.bind]
  | ok x =>
    obtain ⟨m, node⟩ := x
    cases node <;> simp [Except.bind, contentOf]

theorem canonicalize_eq_ok : fs.canonicalize p = .ok l ↔ ∃ node, fs.stat p = .ok (l, node) := by
  unfold canonicalize
  cases h : fs.stat p with
  | error e => simp [Except.map]
  | ok x =>
    obtain ⟨m, node⟩ := x
    simp [Except.map]

/-- The node that was found is the one at its location. -/
theorem node?_of_stat (h : fs.stat p = .ok (l, node)) : fs.node? l = some node := by
  obtain ⟨-, s, ha, -⟩ := stat_eq_ok.1 h
  exact ha.node_eq.symm

/-- The empty path names no directory. -/
theorem ne_empty_of_readDir {names : List String} (h : fs.readDir d = .ok names) : d.text ≠ "" := by
  unfold readDir at h
  split at h
  · rename_i hstat
    obtain ⟨⟨-, hempty, -⟩, -⟩ := stat_eq_ok.1 hstat
    simpa using hempty
  · simp at h
  · simp at h

/-- What is in a directory is listed. -/
theorem mem_readDir (h : fs.stat d = .ok (l, .dir)) (hn : fs.node? (l ++ [n]) ≠ none) :
    ∃ names, fs.readDir d = .ok names ∧ n ∈ names := by
  unfold readDir
  rw [h]
  refine ⟨_, rfl, ?_⟩
  unfold node? at hn
  rw [if_neg (by simp)] at hn
  have hsome : (fs.nodes.find? (·.1 == l ++ [n])).isSome = true := by
    simpa [Option.isSome_iff_ne_none] using hn
  obtain ⟨⟨m, node⟩, hfind⟩ := Option.isSome_iff_exists.1 hsome
  obtain rfl : m = l ++ [n] := by simpa using List.find?_some hfind
  exact List.mem_filterMap.2 ⟨_, List.mem_of_find?_eq_some hfind, by simp⟩

/-! ## Where paths lead -/

/-- A path that leads somewhere still does when nothing is lost. -/
theorem LeadsTo.mono (hw : fs.Within fs') (h : fs.LeadsTo follow p a) (ha : a.node ≠ none) :
    fs'.LeadsTo follow p a := by
  unfold LeadsTo
  rw [hw.current]
  exact Leads.mono hw h ha

/-- What is found is found as well where there is more. -/
theorem stat_mono (hw : fs.Within fs') (h : fs.stat p = .ok (l, node)) :
    fs'.stat p = .ok (l, node) := by
  obtain ⟨hp, s, ha, hslash⟩ := stat_eq_ok.1 h
  exact stat_eq_ok.2 ⟨hp, s, ha.mono hw (by simp), hslash⟩

/-- What is written where a path leads is found there. -/
theorem LeadsTo.put (h : fs.LeadsTo true p a) (ha : a.node ≠ some .dir)
    (hn : ∀ t, node ≠ .link t) :
    (fs.put a.location node).LeadsTo true p ⟨a.location, some node, a.slash⟩ := Leads.put h ha hn

/-- The steps of a path lead into a directory. -/
def EntersPath (fs : FileSystem) (p : Path) (k : Nat) (l : Location) : Prop :=
  fs.Enters maxLinks ((Route.ofPath p).start fs.current) (Route.ofPath p).steps k l

/-- A path that enters a directory still does when nothing is lost. -/
theorem EntersPath.mono (hw : fs.Within fs') (h : fs.EntersPath p k l) : fs'.EntersPath p k l := by
  unfold EntersPath
  rw [hw.current]
  exact Enters.mono hw h

/-- A path that leads into a directory leads nowhere else. -/
theorem EntersPath.location_eq (h : fs.EntersPath p k l) (ha : fs.LeadsTo true p a) :
    a.location = l := by
  obtain ⟨s, hl⟩ := Enters.leads h (Route.ofPath p).slash
  rw [ha.unique hl]

theorem EntersPath.stat_eq (h : fs.EntersPath p k l) (hp : Walkable p)
    (hdir : fs.node? l = some .dir) : fs.stat p = .ok (l, .dir) := by
  obtain ⟨s, hl⟩ := Enters.leads h (Route.ofPath p).slash
  rw [hdir] at hl
  exact stat_eq_ok.2 ⟨hp, s, hl, fun _ => rfl⟩

/-- A name that is joined to a path is its last step. -/
theorem Route.ofPath_join (hd : d.text ≠ "") (hn : Path.IsName n) : Route.ofPath (d.join ⟨n⟩) =
    ⟨(Route.ofPath d).fromRoot, (Route.ofPath d).steps ++ [.name n], false⟩ := by
  have hsteps : (Route.ofPath (d.join ⟨n⟩)).steps = (Route.ofPath d).steps ++ [.name n] := by
    obtain ⟨qs, hqs, hjoin⟩ := Path.pieces_join hd hn
    have hpiece : Step.ofPiece? n.toList = some (.name n) := by
      unfold Step.ofPiece?
      rw [if_neg hn.ne_empty, if_neg hn.ne_here, if_neg hn.ne_parent, String.ofList_toList]
    have hempty : Step.ofPiece? [] = none := rfl
    unfold ofPath
    dsimp only
    rw [hjoin]
    rcases hqs with hqs | hqs <;> rw [hqs] <;> simp [hpiece, hempty]
  have hslash : (Route.ofPath (d.join ⟨n⟩)).slash = false := by
    obtain ⟨cs, -, hjoin⟩ := Path.exists_join hd hn
    have hlast : (cs ++ '/' :: n.toList).getLast? ≠ some '/' := by
      intro h
      have hcons : ('/' :: n.toList).getLast? = n.toList.getLast? :=
        List.getLast?_cons_of_ne_nil hn.ne_empty
      rw [List.getLast?_append_of_ne_nil _ (by simp), hcons] at h
      exact hn.no_slash (List.mem_of_getLast? h)
    unfold ofPath
    dsimp only
    rw [hjoin]
    simpa using hlast
  have hroot : (Route.ofPath (d.join ⟨n⟩)).fromRoot = (Route.ofPath d).fromRoot :=
    Path.isAbsolute_join hd hn
  rw [← hsteps, ← hslash, ← hroot]

/-- A file in a directory is reached through the directory. -/
theorem leadsTo_join (hd : d.text ≠ "") (hn : Path.IsName n)
    (h : fs.LeadsTo follow (d.join ⟨n⟩) a) :
    ∃ k l, fs.EntersPath d k l ∧ fs.Leads follow k l [.name n] false a := by
  unfold LeadsTo at h
  rw [Route.ofPath_join hd hn] at h
  exact Leads.split h (by simp)

/-! ## Commands -/

/-- A directory is made where nothing was. -/
theorem makeDir_inv (h : fs.makeDir p = .ok fs') :
    Walkable p ∧ ∃ l s, fs.LeadsTo false p ⟨l, none, s⟩ ∧ fs' = fs.put l .dir := by
  unfold makeDir at h
  cases hr : fs.resolve false p with
  | error e => simp [hr, bind, Except.bind] at h
  | ok a =>
    obtain ⟨hp, ha⟩ := resolve_eq_ok.1 hr
    obtain ⟨l, o, s⟩ := a
    cases o with
    | some node => simp [hr, bind, Except.bind] at h
    | none =>
      rw [hr] at h
      exact ⟨hp, l, s, ha, (Except.ok.inj h).symm⟩

/-- Making a directory loses nothing. -/
theorem makeDir_within (h : fs.makeDir p = .ok fs') : fs.Within fs' := by
  obtain ⟨-, l, s, ha, rfl⟩ := makeDir_inv h
  exact within_put ha.node_eq.symm

/-- A directory that was created is where its path leads, and nothing was there. -/
theorem stat_of_makeDir (h : fs.makeDir p = .ok fs') :
    ∃ l, fs.node? l = none ∧ fs' = fs.put l .dir ∧ fs'.stat p = .ok (l, .dir) := by
  obtain ⟨hp, l, s, ha, rfl⟩ := makeDir_inv h
  have hfollow : fs.LeadsTo true p ⟨l, none, s⟩ := Leads.following ha (by simp)
  have hput : (fs.put l .dir).LeadsTo true p ⟨l, some .dir, s⟩ :=
    hfollow.put (by simp) (by simp)
  exact ⟨l, ha.node_eq.symm, rfl, stat_eq_ok.2 ⟨hp, s, hput, fun _ => rfl⟩⟩

/-- A directory that was made is there. -/
theorem isDir_of_makeDir (h : fs.makeDir p = .ok fs') : fs'.isDir p = true := by
  obtain ⟨l, -, -, hstat⟩ := stat_of_makeDir h
  exact isDir_iff.2 ⟨l, hstat⟩

/-- The first path is the second one, or it is above it. -/
inductive AtOrAbove : Path → Path → Prop
  | self {p : Path} : AtOrAbove p p
  | above {p parent q : Path} (hp : p.parent? = some parent) (h : AtOrAbove q parent) :
      AtOrAbove q p

/-- The ways in which a directory is created with those above it. -/
inductive Created : Path → FileSystem → Except IoError Unit → FileSystem → Prop
  | empty {p : Path} {fs : FileSystem} (h : p.text = "") : Created p fs (.ok ()) fs
  | there {p : Path} {fs : FileSystem} (h : fs.isDir p = true) : Created p fs (.ok ()) fs
  | made {p : Path} {fs fs' : FileSystem} (h : fs.makeDir p = .ok fs') : Created p fs (.ok ()) fs'
  | failed {p : Path} {fs : FileSystem} (e : IoError) : Created p fs (.error e) fs
  | above {p parent : Path} {fs fs₁ fs' : FileSystem} {r r' : Except IoError Unit}
      (hp : p.parent? = some parent) (h : Created parent fs r fs₁) (h' : Created p fs₁ r' fs') :
      Created p fs r' fs'

/-- **Making directories from the top down.** The induction is on the fuel, which the number of
parents bounds. -/
theorem createDirAllFrom_inv {fuel : Nat} (h : createDirAllFrom fuel p fs = (r, fs')) :
    Created p fs r fs' := by
  induction fuel generalizing p fs r fs' with
  | zero =>
    obtain ⟨rfl, rfl⟩ := Prod.mk.inj h
    exact .failed _
  | succ fuel ih =>
    unfold createDirAllFrom at h
    split at h
    · rename_i hdone
      obtain ⟨rfl, rfl⟩ := Prod.mk.inj h
      rcases Bool.or_eq_true_iff.1 hdone with hempty | hdir
      · exact .empty (by simpa using hempty)
      · exact .there hdir
    split at h
    · rename_i fs₁ hmake
      obtain ⟨rfl, rfl⟩ := Prod.mk.inj h
      exact .made hmake
    · split at h
      · obtain ⟨rfl, rfl⟩ := Prod.mk.inj h
        exact .failed _
      · rename_i parent hparent
        split at h
        · rename_i e fs₁ habove
          obtain ⟨rfl, rfl⟩ := Prod.mk.inj h
          exact .above hparent (ih habove) (.failed e)
        · rename_i fs₁ habove
          refine .above hparent (ih habove) ?_
          split at h
          · rename_i hdir
            obtain ⟨rfl, rfl⟩ := Prod.mk.inj h
            exact .there hdir
          · split at h
            · rename_i fs₂ hmake
              obtain ⟨rfl, rfl⟩ := Prod.mk.inj h
              exact .made hmake
            · obtain ⟨rfl, rfl⟩ := Prod.mk.inj h
              exact .failed _
    · obtain ⟨rfl, rfl⟩ := Prod.mk.inj h
      exact .failed _

/-- Also where directories cannot be created nothing is lost. -/
theorem Created.within (h : Created p fs r fs') : fs.Within fs' := by
  induction h with
  | empty h => exact .refl _
  | there h => exact .refl _
  | made h => exact makeDir_within h
  | failed e => exact .refl _
  | above hp h h' ih ih' => exact ih.trans ih'

/-- All that changes is that directories are there, each where the path leads or one above it. -/
theorem Created.node?_cases (h : Created p fs r fs') (l : Location) : fs'.node? l = fs.node? l ∨
    fs.node? l = none ∧ fs'.node? l = some .dir ∧
      ∃ q, AtOrAbove q p ∧ fs'.stat q = .ok (l, .dir) := by
  induction h with
  | empty => exact .inl rfl
  | there => exact .inl rfl
  | @made p fs fs' h =>
    obtain ⟨m, hnone, rfl, hstat⟩ := stat_of_makeDir h
    by_cases hl : l = m
    · subst hl
      exact .inr ⟨hnone, node?_of_stat hstat, p, .self, hstat⟩
    · exact .inl (node?_put_of_ne fs hl _)
  | failed => exact .inl rfl
  | above hp h h' ih ih' =>
    rcases ih' with hlast | ⟨hnone, hdir, hat⟩
    · rcases ih with hfirst | ⟨hnone, hdir, q, hq, hstat⟩
      · exact .inl (hlast.trans hfirst)
      · exact .inr ⟨hnone, hlast.trans hdir, q, .above hp hq, stat_mono h'.within hstat⟩
    · rcases ih with hfirst | ⟨-, hdir₁, -⟩
      · exact .inr ⟨hfirst.symm.trans hnone, hdir, hat⟩
      · cases hnone.symm.trans hdir₁

/-- What is no directory was there before. -/
theorem Created.node_of_ne_dir (h : Created p fs r fs') (hnode : node ≠ .dir)
    (hl : fs'.node? l = some node) : fs.node? l = some node := by
  rcases h.node?_cases l with hsame | ⟨-, hdir, -⟩
  · exact hsame.symm.trans hl
  · exact absurd (Option.some.inj (hl.symm.trans hdir)) hnode

/-- After all parents have been made, the directory is there. -/
theorem Created.isDir (h : Created p fs r fs') (hr : r = .ok ()) (hp : p.text ≠ "") :
    fs'.isDir p = true := by
  induction h with
  | empty h => exact absurd h hp
  | there h => exact h
  | made h => exact isDir_of_makeDir h
  | failed e => simp at hr
  | above hp' h h' ih ih' => exact ih' hr hp

theorem createDirAll_within (h : fs.createDirAll p = (r, fs')) : fs.Within fs' :=
  (createDirAllFrom_inv h).within

/-- Directories that were created on the way are no regular files. -/
theorem file_iff_of_createDirAll (h : fs.createDirAll p = (r, fs')) :
    fs'.node? l = some (.file c) ↔ fs.node? l = some (.file c) :=
  ⟨(createDirAllFrom_inv h).node_of_ne_dir (by simp), (createDirAll_within h).node l _⟩

theorem isDir_of_createDirAll (h : fs.createDirAll p = (.ok (), fs')) (hp : p.text ≠ "") :
    fs'.isDir p = true := (createDirAllFrom_inv h).isDir rfl hp

/-- Removing a file follows no link at the end of its path. -/
theorem removeFile_inv (h : fs.removeFile p = .ok fs') :
    ∃ l node s, fs.LeadsTo false p ⟨l, some node, s⟩ ∧ node ≠ .dir ∧ fs' = fs.erase l := by
  unfold removeFile at h
  cases hr : fs.resolve false p with
  | error e => simp [hr, bind, Except.bind] at h
  | ok a =>
    obtain ⟨-, ha⟩ := resolve_eq_ok.1 hr
    obtain ⟨l, o, s⟩ := a
    rw [hr] at h
    cases o with
    | none => simp [bind, Except.bind] at h
    | some node =>
      cases node with
      | dir => simp [bind, Except.bind] at h
      | file c =>
        cases s with
        | true => simp [bind, Except.bind] at h
        | false => exact ⟨l, _, _, ha, by simp, (Except.ok.inj h).symm⟩
      | link t =>
        cases s with
        | true => simp [bind, Except.bind] at h
        | false => exact ⟨l, _, _, ha, by simp, (Except.ok.inj h).symm⟩

/-- Writing follows links, and puts the content where the path leads. -/
theorem write_inv (h : fs.write p c = .ok fs') : Walkable p ∧
    ∃ l o, fs.LeadsTo true p ⟨l, o, false⟩ ∧ o ≠ some .dir ∧ fs' = fs.put l (.file c) := by
  unfold write at h
  cases hr : fs.resolve true p with
  | error e => simp [hr, bind, Except.bind] at h
  | ok a =>
    obtain ⟨hp, ha⟩ := resolve_eq_ok.1 hr
    obtain ⟨l, o, s⟩ := a
    rw [hr] at h
    simp only [bind, Except.bind] at h
    split at h
    · simp at h
    · rename_i hfile
      obtain ⟨rfl, ho⟩ : s = false ∧ o ≠ some .dir := by simpa using hfile
      exact ⟨hp, l, o, ha, ho, (Except.ok.inj h).symm⟩

/-- What was written can be read. -/
theorem stat_of_write (h : fs.write p c = .ok fs') : ∃ l, fs'.stat p = .ok (l, .file c) := by
  obtain ⟨hp, l, o, ha, ho, rfl⟩ := write_inv h
  have hput : (fs.put l (.file c)).LeadsTo true p ⟨l, some (.file c), false⟩ :=
    ha.put ho (by simp)
  exact ⟨l, stat_eq_ok.2 ⟨hp, false, hput, by simp⟩⟩

/-- A copy reads the source and writes its content. -/
theorem copy_inv (h : fs.copy source destination = .ok fs') :
    ∃ l c, fs.stat source = .ok (l, .file c) ∧ fs.write destination c = .ok fs' := by
  unfold copy at h
  cases hs : fs.stat source with
  | error e => simp [hs, bind, Except.bind] at h
  | ok x =>
    obtain ⟨l, node⟩ := x
    rw [hs] at h
    cases node with
    | file c => exact ⟨l, c, rfl, h⟩
    | dir => simp [bind, Except.bind] at h
    | link t => simp [bind, Except.bind] at h

/-- A file that was written in a directory is listed there. -/
theorem listed_of_write (hd : d.text ≠ "") (hn : Path.IsName n) (hp : Walkable d)
    (hdir : ∀ k l, fs.EntersPath d k l → fs.node? l = some .dir)
    (h : fs.write (d.join ⟨n⟩) c = .ok fs') :
    ∃ names, fs'.readDir d = .ok names ∧ n ∈ names := by
  obtain ⟨-, m, o, ha, ho, rfl⟩ := write_inv h
  obtain ⟨k, l, he, hlast⟩ := leadsTo_join hd hn ha
  have hnode := hdir k l he
  -- the directory is not what was written
  have hlm : l ≠ m := by
    rintro rfl
    exact ho (ha.node_eq.trans hnode)
  have hkept : (fs.put m (.file c)).node? l = some .dir := by
    rw [node?_put_of_ne fs hlm, hnode]
  have hentered : (fs.put m (.file c)).EntersPath d k l :=
    Enters.put he hlast (by simp) ho
  have hfile : fs.node? m ≠ some .dir := fun hm => ho (ha.node_eq.trans hm)
  refine mem_readDir (hentered.stat_eq hp hkept) ?_
  by_cases hself : l ++ [n] = m
  · rw [hself, node?_put_self fs (ne_root_of_node? hfile)]
    simp
  · -- the name is a link, and what was written is where it leads
    rw [node?_put_of_ne fs hself]
    cases hlast with
    | missing hs hn => exact absurd rfl hself
    | file hs hn => exact absurd rfl hself
    | dir hs hn h => simp [hn]
    | halt hs hn hf => simp at hf
    | link hs hn ht hf h => simp [hn]

end FileSystem
end PluginHost
