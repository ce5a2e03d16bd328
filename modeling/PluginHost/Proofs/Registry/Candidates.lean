import PluginHost.Proofs.FileSystem.Commands
import PluginHost.Proofs.Plugin.Content
import PluginHost.Proofs.Registry.Rescan

/-!
# What becomes of one library in a scan

* **`mem_libraryFiles`**: the libraries that a directory holds.
* **`tried_of_instantiateAll`**, **`origin_of_instantiateAll`**: each library is tried in its turn,
  and each plugin comes from one that was tried.
* **`latest_started`**: as long as identities last, whoever was found stays registered.
* **`registered_of_candidate`**, **`candidate_of_registered`**: a library is registered iff it
  became a plugin when it was tried. **`path_ne_name`**: it has a path in a directory.
-/

namespace PluginHost

open Interaction Transcript

namespace Registry

variable {r : Registry} {t : Transcript} {fs : FileSystem} {d path : Path} {ledger : Ledger}
  {p q : Plugin}

/-- A library file is an entry of the directory that is a file and has the name of a library. -/
theorem mem_libraryFiles : path ∈ libraryFiles fs d ↔ ∃ names, fs.readDir d = .ok names ∧
    (∃ n ∈ names, path = d.join ⟨n⟩) ∧ fs.isFile path = true ∧ path.isPluginLibrary = true := by
  rw [(libraryFiles_perm fs d).mem_iff]
  cases hnames : fs.readDir d with
  | error e => simp [Except.toOption]
  | ok names =>
    simp only [Except.toOption, Option.getD_some, List.mem_filter, List.mem_map, Bool.and_eq_true,
      Except.ok.injEq, exists_eq_left']
    simp only [eq_comm]

/-- Each path of a row is tried, and the plugin that came of it is in the result. -/
theorem tried_of_instantiateAll {paths : List Path} {x : List Plugin × Ledger}
    (h : Yields (instantiateAll fs ledger paths) t x) (hpath : path ∈ paths) :
    ∃ l u y, Yields (instantiate fs l path) u y ∧ u ⊆ t ∧ ∀ p ∈ y.1, p ∈ x.1 := by
  induction paths generalizing ledger t x with
  | nil => simp at hpath
  | cons first rest ih =>
    obtain ⟨u, v, ⟨o, l⟩, rfl, h₁, h₂⟩ := yields_bind.1 h
    obtain ⟨w, _, ⟨ps, l'⟩, rfl, h₃, h₄⟩ := yields_bind.1 h₂
    obtain ⟨rfl, rfl⟩ := yields_done.1 h₄
    rw [List.append_nil]
    rcases List.mem_cons.1 hpath with rfl | hpath
    · refine ⟨ledger, u, (o, l), h₁, List.subset_append_left u w, fun p hp => ?_⟩
      exact List.mem_append_left ps (Option.mem_toList.2 hp)
    · obtain ⟨m, u', y, hy, hsub, hmem⟩ := ih h₃ hpath
      exact ⟨m, u', y, hy, List.Subset.trans hsub (List.subset_append_right u w),
        fun p hp => List.mem_append_right o.toList (hmem p hp)⟩

/-- Whoever is in the result came of one of the paths. -/
theorem origin_of_instantiateAll {paths : List Path} {x : List Plugin × Ledger}
    (h : Yields (instantiateAll fs ledger paths) t x) (hp : p ∈ x.1) :
    ∃ path ∈ paths, ∃ l u y, Yields (instantiate fs l path) u y ∧ u ⊆ t ∧ y.1 = some p := by
  induction paths generalizing ledger t x with
  | nil =>
    obtain ⟨rfl, rfl⟩ := yields_done.1 h
    simp at hp
  | cons first rest ih =>
    obtain ⟨u, v, ⟨o, l⟩, rfl, h₁, h₂⟩ := yields_bind.1 h
    obtain ⟨w, _, ⟨ps, l'⟩, rfl, h₃, h₄⟩ := yields_bind.1 h₂
    obtain ⟨rfl, rfl⟩ := yields_done.1 h₄
    rw [List.append_nil]
    rcases List.mem_append.1 hp with hp | hp
    · exact ⟨first, List.mem_cons_self .., ledger, u, (o, l), h₁, List.subset_append_left u w,
        Option.mem_toList.1 hp⟩
    · obtain ⟨path, hpath, m, u', y, hy, hsub, hsome⟩ := ih h₃ hp
      exact ⟨path, List.mem_cons_of_mem first hpath, m, u', y, hy,
        List.Subset.trans hsub (List.subset_append_right u w), hsome⟩

/-- What is part of the host comes from no library. -/
theorem path?_of_instantiateBuiltIns {index : Nat} {bs : List BuiltIn} {x : List Plugin × Ledger}
    (h : Yields (instantiateBuiltIns index ledger bs) t x) (hp : p ∈ x.1) : p.path? = none := by
  induction bs generalizing ledger t x index with
  | nil =>
    obtain ⟨rfl, rfl⟩ := yields_done.1 h
    simp at hp
  | cons b rest ih =>
    obtain ⟨u, v, ⟨o, l⟩, rfl, h₁, h₂⟩ := yields_bind.1 h
    obtain ⟨w, _, ⟨ps, l'⟩, rfl, h₃, h₄⟩ := yields_bind.1 h₂
    obtain ⟨rfl, rfl⟩ := yields_done.1 h₄
    rcases List.mem_append.1 hp with hp | hp
    · have hmade := Plugin.attempt_inv h₁
      rw [Option.mem_toList.1 hp] at hmade
      unfold Plugin.path?
      rw [hmade.source_eq.1]
    · exact ih h₃ hp

/-- As long as identities last, nobody who was started gives way to another. -/
theorem latest_started {allowed : Bool} {cs : List (Source × List Generation)} {l l' : Ledger}
    {u : Transcript} {os : List (Option Plugin)} {xs : List (Except PluginError Status × Plugin)}
    (hscan : Scanned cs l t os l') (hstart : Started allowed os.reduceOption u xs)
    (hmax : l'.ids.next ≠ lastId) : latest (xs.map (·.2)) = xs.map (·.2) := by
  have hnotlast : ∀ q ∈ xs.map (·.2), q.id ≠ lastId := by
    intro q hq
    obtain ⟨p, hp, -, -, hid⟩ := hstart.exists_found hq
    rw [hid]
    exact (hscan.found p hp).precedes.ne_lastId hmax
  have hids : (xs.map (·.2)).Pairwise fun p q => Precedes p.id q.id := by
    have hmap := List.pairwise_map.2 hscan.pairwise
    rw [← hstart.map_eq (·.id) fun _ => rfl] at hmap
    exact List.pairwise_map.1 hmap
  have hsorted : (xs.map (·.2)).Pairwise fun p q => p.id < q.id :=
    hids.imp_of_mem fun _ hq hpq => hpq.lt (hnotlast _ hq)
  exact (latest_eq_self hsorted).1

/-- Who is registered after a scan, and of which kind, as long as identities last. -/
theorem rescan_found {x : Nat × Registry} (hc : r.Consistent) (h : Yields (rescan fs r) t x)
    (hmax : x.2.ledger.ids.next ≠ lastId) : ∃ t₁ libraries l hosted,
      t₁ ⊆ t ∧ Yields (instantiateAll fs r.ledger (candidateFiles fs r.directories)) t₁
        (libraries, l) ∧
      (∀ p ∈ hosted, p.path? = none) ∧
      x.2.plugins.map (fun q => (q.who, q.kind)) =
        (libraries ++ hosted).map fun p => (p.who, p.kind) := by
  obtain ⟨t₁, t₂, t₃, t₄, libraries, l, hosted, l', xs, rfl, h₁, h₂, hstart, -, rfl⟩ :=
    rescan_phases hc h
  obtain ⟨os, hfound, hscan⟩ := scanned_of_yields h₁ h₂
  rw [← hfound] at hstart
  have hplugins : latest (xs.map (·.2)) = xs.map (·.2) := latest_started hscan hstart hmax
  refine ⟨t₁, libraries, l, hosted, fun e he => by simp [he], h₁,
    fun p hp => path?_of_instantiateBuiltIns h₂ hp, ?_⟩
  change (latest (xs.map (·.2))).map _ = _
  rw [hplugins, ← hfound]
  exact hstart.map_eq (fun p => (p.who, p.kind)) fun _ => rfl

/-- Whoever came of a candidate is registered under its path. -/
theorem registered_of_candidate {x : Nat × Registry} (hc : r.Consistent)
    (h : Yields (rescan fs r) t x) (hmax : x.2.ledger.ids.next ≠ lastId)
    (hpath : path ∈ candidateFiles fs r.directories) :
    ∃ l u y, Yields (instantiate fs l path) u y ∧ u ⊆ t ∧
      ∀ p ∈ y.1, ∃ q ∈ x.2.plugins, q.path? = some path := by
  obtain ⟨t₁, libraries, _, hosted, hsub, hall, -, hsame⟩ := rescan_found hc h hmax
  obtain ⟨l, u, y, hy, hu, hmem⟩ := tried_of_instantiateAll hall hpath
  refine ⟨l, u, y, hy, List.Subset.trans hu hsub, fun p hp => ?_⟩
  have hp' : (p.who, p.kind) ∈ x.2.plugins.map fun q => (q.who, q.kind) := by
    rw [hsame]
    exact List.mem_map_of_mem (List.mem_append_left hosted (hmem p hp))
  obtain ⟨q, hq, hqp⟩ := List.mem_map.1 hp'
  have hwho : q.who = p.who := (Prod.mk.inj hqp).1
  have hprobed := instantiate_inv hy
  rw [Option.mem_def.1 hp] at hprobed
  refine ⟨q, hq, ?_⟩
  unfold Plugin.path?
  rw [hwho, hprobed.source_eq.1]
  rfl

/-- A registered library was a candidate, and mapping its file gave a plugin of the same kind. -/
theorem candidate_of_registered {x : Nat × Registry} (hc : r.Consistent)
    (h : Yields (rescan fs r) t x) (hmax : x.2.ledger.ids.next ≠ lastId) (hq : q ∈ x.2.plugins)
    (hpath : q.path? = some path) :
    path ∈ candidateFiles fs r.directories ∧ q.who.source = librarySource fs path ∧
      ∃ l u y, Yields (instantiate fs l path) u y ∧ u ⊆ t ∧ y.1.map Plugin.kind = some q.kind := by
  obtain ⟨t₁, libraries, _, hosted, hsub, hall, hhost, hsame⟩ := rescan_found hc h hmax
  have hq' : (q.who, q.kind) ∈ (libraries ++ hosted).map fun p => (p.who, p.kind) := by
    rw [← hsame]
    exact List.mem_map_of_mem hq
  obtain ⟨p, hp, hpq⟩ := List.mem_map.1 hq'
  obtain ⟨hwho, hkind⟩ : p.who = q.who ∧ p.kind = q.kind := Prod.mk.inj hpq
  have hpath' : p.path? = some path := by
    unfold Plugin.path? at hpath ⊢
    rw [hwho]
    exact hpath
  rcases List.mem_append.1 hp with hp | hp
  · obtain ⟨path', hmem, l, u, y, hy, hu, hsome⟩ := origin_of_instantiateAll hall hp
    have hprobed := instantiate_inv hy
    rw [hsome] at hprobed
    have hsource : p.who.source = librarySource fs path' := hprobed.source_eq.1
    obtain rfl : path' = path := by
      unfold Plugin.path? at hpath'
      rw [hsource] at hpath'
      exact Option.some.inj hpath'
    have hsame : y.1.map Plugin.kind = some q.kind := by rw [hsome, Option.map_some, hkind]
    exact ⟨hmem, hwho ▸ hsource, l, u, y, hy, List.Subset.trans hu hsub, hsame⟩
  · rw [hhost p hp] at hpath'
    simp at hpath'

/-- What is registered is in a directory, so its path is not a single name. -/
theorem path_ne_name {x : Nat × Registry} {n : String} (hc : r.Consistent)
    (h : Yields (rescan fs r) t x) (hmax : x.2.ledger.ids.next ≠ lastId) (hq : q ∈ x.2.plugins)
    (hn : Path.IsName n) : q.path? ≠ some ⟨n⟩ := by
  intro hpath
  obtain ⟨hcandidate, -⟩ := candidate_of_registered hc h hmax hq hpath
  obtain ⟨d, -, hmem⟩ := List.mem_flatMap.1 hcandidate
  obtain ⟨names, hnames, ⟨m, -, hm⟩, -⟩ := mem_libraryFiles.1 hmem
  have hslash := Path.slash_mem_join (q := ⟨m⟩) (FileSystem.ne_empty_of_readDir hnames)
  rw [← hm] at hslash
  exact hn.no_slash hslash

end Registry

end PluginHost
