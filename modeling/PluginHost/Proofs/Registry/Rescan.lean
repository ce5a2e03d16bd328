import PluginHost.Proofs.Registry.Identity

/-!
# What a scan builds

* **`rescan_builds`**: what is registered after a scan, in which order everything happens, and which
  identities are handed out, as long as they last.
-/

namespace PluginHost

open Interaction Transcript

/-! ## Identities while they last -/

/-- As long as the identities last, the next one is the number of mappings plus one. -/
theorem Ledger.Counts.next_eq {l : Ledger} {n : Nat} (h : l.Counts n) (hl : l.ids.next ≠ lastId) :
    l.ids.next.toNat = n + 1 := by
  have hne : l.ids.next.toNat ≠ lastId.toNat := fun e => hl (UInt32.toNat_inj.1 e)
  unfold Ledger.Counts at h
  omega

/-- An identity before one that is not the last is not the last itself. -/
theorem Precedes.ne_lastId {a b : PluginId} (h : Precedes a b) (hb : b ≠ lastId) : a ≠ lastId := by
  have hlt := UInt32.lt_iff_toNat_lt.1 (h.lt hb)
  have hbound := b.toNat_lt
  rintro rfl
  rw [toNat_lastId] at hlt
  omega

theorem ne_lastId_of_le {a b : PluginId} (h : a ≤ b) (hb : b ≠ lastId) : a ≠ lastId := by
  rintro rfl
  have hle := UInt32.le_iff_toNat_le.1 h
  have hbound := b.toNat_lt
  rw [toNat_lastId] at hle
  exact hb (UInt32.toNat_inj.1 (by rw [toNat_lastId]; omega))

/-- As long as the identities last, that of a plugin is the number of mappings up to its own. -/
theorem Numbered.id_eq {p : Plugin} {n : Nat} {t : Transcript} (h : Numbered n t p)
    (hp : p.id ≠ lastId) : ∃ a table b, t = a ++ ⟨.plugin p.who .load, some table⟩ :: b ∧
      p.id.toNat = n + Transcript.mapped a + 1 := by
  obtain ⟨a, table, b, ht, hid⟩ := h
  have hne : p.id.toNat ≠ lastId.toNat := fun e => hp (UInt32.toNat_inj.1 e)
  exact ⟨a, table, b, ht, by omega⟩

/-- No identity is above the number of times that code was mapped. -/
theorem Numbered.le_mapped {p : Plugin} {n : Nat} {t : Transcript} (h : Numbered n t p) :
    p.id.toNat ≤ n + t.mapped := by
  obtain ⟨a, table, b, rfl, hid⟩ := h
  have hload : (Exchange.mk (.plugin p.who .load) (some table)).isMapped = true := rfl
  rw [Transcript.mapped_append, Transcript.mapped_cons, if_pos hload]
  omega

namespace Registry

variable {r : Registry} {t : Transcript} {h : History} {fs : FileSystem}
  {directories : PluginDirectories}

/-- A scan shuts the session of the provider down, then every plugin that is loaded, and lets go of
them all. Then it probes the libraries of the system directory and of the user directory, each
directory in the order of paths, and what is part of the host in the order in which it was
registered. Then it starts whoever was found. Those are the registered plugins, in the order of
their identities. One identity is handed out whenever code is mapped. -/
theorem rescan_builds {x : Nat × Registry} (hf : (new directories).Follows h r)
    (hx : Yields (rescan fs r) t x) (hmax : x.2.ledger.ids.next ≠ lastId) :
    (∀ directory,
      (libraryFiles fs directory).Perm
        ((((fs.readDir directory).toOption.getD []).map fun n => directory.join ⟨n⟩).filter
          fun p => fs.isFile p && p.isPluginLibrary) ∧
      (libraryFiles fs directory).Pairwise fun a b => b.before a = false) ∧
    ∃ files hosted starting m os qs xs,
      t = r.clearing ++ (files ++ hosted ++ starting) ∧
      Scanned (libraryCandidates fs r) r.ledger files os m ∧
      Scanned (builtInCandidates r) m hosted qs x.2.ledger ∧
      List.Forall₂ (fun c o => ∀ p ∈ o, p.who.source = c.1 ∧ p.generation ∈ c.2)
        (libraryCandidates fs r ++ builtInCandidates r) (os ++ qs) ∧
      Started r.positionalDefault (os ++ qs).reduceOption starting xs ∧
      x.2.plugins = xs.map (·.2) ∧
      x.1 = x.2.plugins.length ∧
      x.2.plugins.Pairwise (fun p q => p.id < q.id) ∧
      r.ledger.ids.next.toNat = h.transcript.mapped + 1 ∧
      x.2.ledger.ids.next.toNat = h.transcript.mapped + files.mapped + hosted.mapped + 1 ∧
      ((∀ who, (⟨.plugin who .load, none⟩ : Exchange) ∉ hosted) →
        hosted.mapped = r.builtIns.length) ∧
      (∀ p ∈ x.2.plugins, ∃ a table b,
        files ++ hosted = a ++ ⟨.plugin p.who .load, some table⟩ :: b ∧
          p.id.toNat = h.transcript.mapped + Transcript.mapped a + 1) ∧
      (∀ earlier later s, h = earlier ++ later → (new directories).Follows earlier s →
        ∀ q ∈ s.plugins, ∀ p ∈ x.2.plugins, q.id < p.id) := by
  refine ⟨fun directory => ⟨libraryFiles_perm fs directory, libraryFiles_sorted fs directory⟩, ?_⟩
  have hc := hf.consistent (consistent_new directories)
  have hord := hf.ordered
  obtain ⟨t₁, t₂, t₃, l, os, xs, rfl, hscan, hstart, hdrop, rfl⟩ := rescan_course hc hx
  dsimp only at hmax ⊢
  have hfound : ∀ q ∈ xs.map (·.2), ∃ p, q.who = p.who ∧ q.id = p.id ∧
      Found r.ledger t₁ l p := by
    intro q hq
    obtain ⟨p, hp, -, hw, hi⟩ := hstart.exists_found hq
    exact ⟨p, hw, hi, hscan.found p hp⟩
  -- whoever has the last identity leaves it as the one that comes next
  have hnotlast : ∀ q ∈ xs.map (·.2), q.id ≠ lastId := by
    intro q hq
    obtain ⟨p, -, hi, hp⟩ := hfound q hq
    exact hi ▸ hp.precedes.ne_lastId hmax
  -- as long as identities last, nobody has to give way to another
  have hsorted : (xs.map (·.2)).Pairwise fun p q => p.id < q.id := by
    have hsame := hstart.map_eq (·.id) fun _ => rfl
    have hmap := List.pairwise_map.2 hscan.pairwise
    rw [← hsame] at hmap
    exact (List.pairwise_map.1 hmap).imp_of_mem fun _ hq hpq => hpq.lt (hnotlast _ hq)
  obtain ⟨hlatest, hdisplaced⟩ := latest_eq_self hsorted
  have hplugins : plugins { r with
      ledger := l, roster := ⟨latest (xs.map (·.2)), none⟩, snapshot := .zeroed } =
        xs.map (·.2) := hlatest
  have hlen : xs.length = (xs.map (·.2)).length := (List.length_map ..).symm
  rw [hdisplaced] at hdrop
  obtain rfl := (yields_done.1 hdrop).1
  obtain ⟨m, files, hosted, os, qs, rfl, rfl, hlibs, hhost⟩ := hscan.split
  have hfirst := hord.counts.next_eq (ne_lastId_of_le hscan.spent.next_le hmax)
  have hlast := (hscan.spent.counts _ hord.counts).next_eq hmax
  have hnum : ∀ q ∈ xs.map (·.2), ∃ a table b,
      files ++ hosted = a ++ ⟨.plugin q.who .load, some table⟩ :: b ∧
        q.id.toNat = h.transcript.mapped + Transcript.mapped a + 1 := by
    intro q hq
    obtain ⟨p, hw, hi, hp⟩ := hfound q hq
    exact ((hp.numbered _ hord.counts).of_eq hw hi).id_eq (hnotlast q hq)
  rw [hplugins]
  refine ⟨files, hosted, t₂, m, os, qs, xs, by simp, hlibs, hhost, hscan.forall₂, hstart,
    rfl, hlen, hsorted, hfirst,
    ?_, fun hload => ?_, hnum, ?_⟩
  · rw [hlast, Transcript.mapped_append]
    omega
  · rw [hhost.mapped_eq (fun c hcand => ?_) hload]
    · simp [builtInCandidates]
    · obtain ⟨b, -, rfl⟩ := List.mem_map.1 hcand
      exact ⟨_, rfl⟩
  · rintro earlier later s rfl hs q hq p hp
    -- the old identity counts code mapped by then, the new one counts all of that and its own
    have hold := (hs.ordered.numbered q hq).le_mapped
    obtain ⟨a, table, b, -, hid⟩ := hnum p hp
    have hmore : History.transcript (earlier ++ later) =
        earlier.transcript ++ later.transcript := by
      simp [History.transcript]
    rw [hmore, Transcript.mapped_append] at hid
    rw [UInt32.lt_iff_toNat_lt]
    omega

end Registry

/-! ## A directory with libraries

One library is a link, one is of the older interface and one holds no code. A directory with the
name of a library and a text are in between. Of the two plugins that are part of the host the first
is not what it was declared to be. -/

namespace Shelf

def files : FileSystem :=
  ⟨[], [(["lib"], .dir), (["lib", "a.so"], .link ⟨"/a"⟩), (["lib", "b.so"], .file (.library "b")),
    (["a"], .file (.library "a")), (["lib", "c.so"], .file (.text "")), (["lib", "d.so"], .dir),
    (["lib", "e.txt"], .file (.text ""))]⟩

/-- The table of a plugin of the current interface. -/
def table (label : String) : SymbolTable := .ofNames label (EntryPoint.mandatory.map (·.symbol))

def primary : LegacyPrimary := ⟨Legacy.magic, none, none, false, false, true, true, false, true⟩

def answer : (q : Query) → q.Reply
  | .plugin ⟨_, .library _ (some (_, .library "a"))⟩ .load => some (table "a")
  | .plugin ⟨_, .library _ (some (_, .library "b"))⟩ .load =>
    some (.ofNames "b" [LegacySymbol.primary])
  | .plugin ⟨_, .library ..⟩ .load => none
  | .plugin ⟨_, .builtIn _⟩ .load => some (table "host")
  | .plugin _ .apiVersion => .pluginApi
  | .plugin _ .primaryFactory => some primary
  | .plugin _ c => c.silence
  | .processes => []
  | .report _ => ()
  | .write _ => .ok ()
  | .pause _ => ()

def start : Registry := .new ⟨some ⟨"/lib"⟩, some ⟨"/none"⟩⟩

/-- A scan before there are any files. -/
def firstScan : List Operation :=
  [.registerBuiltIn ⟨"old", .legacy⟩, .registerBuiltIn ⟨"new", .current⟩, .rescan ⟨[], []⟩]

/-- The registry before the files are there. -/
def prior : Registry := (start.record answer firstScan).2

/-- The directory holds three files with the name of a library. -/
theorem libraryFiles_lib :
    Registry.libraryFiles files ⟨"/lib"⟩ = [⟨"/lib/a.so"⟩, ⟨"/lib/b.so"⟩, ⟨"/lib/c.so"⟩] := by
  have hnames : files.readDir ⟨"/lib"⟩ = .ok ["a.so", "b.so", "c.so", "d.so", "e.txt"] := by
    decide +kernel
  have hfiles : ((["a.so", "b.so", "c.so", "d.so", "e.txt"].map fun n =>
      (⟨"/lib"⟩ : Path).join ⟨n⟩).filter fun p => files.isFile p && p.isPluginLibrary) =
        [⟨"/lib/a.so"⟩, ⟨"/lib/b.so"⟩, ⟨"/lib/c.so"⟩] := by
    decide +kernel
  rw [Registry.libraryFiles, hnames]
  dsimp only
  rw [hfiles]
  exact List.mergeSort_of_pairwise (by decide +kernel)

theorem candidateFiles_prior : Registry.candidateFiles files prior.directories =
    [⟨"/lib/a.so"⟩, ⟨"/lib/b.so"⟩, ⟨"/lib/c.so"⟩] := by
  have hdirs : prior.directories.toList = [⟨"/lib"⟩, ⟨"/none"⟩] := by decide +kernel
  have hnone : Registry.libraryFiles files ⟨"/none"⟩ = [] := by decide +kernel
  simp [Registry.candidateFiles, hdirs, libraryFiles_lib, hnone]

end Shelf

namespace Registry

/-- The identities 4 and 6 were spent on what was no plugin of the generation that was tried. -/
theorem rescan_builds_shelf :
    let x := ((rescan Shelf.files Shelf.prior).record Shelf.answer).2
    x.2.plugins.map (fun p => (p.id, p.generation)) =
        [(3, .current), (5, .legacy), (7, .current)] ∧
      x.2.ledger.ids.next = 8 ∧
      ∀ q ∈ Shelf.prior.plugins, ∀ p ∈ x.2.plugins, q.id < p.id := by
  intro x
  have hplugins : x.2.plugins.map (fun p => (p.id, p.generation)) =
      [(3, .current), (5, .legacy), (7, .current)] := by
    change ((rescan Shelf.files Shelf.prior).record Shelf.answer).2.2.plugins.map _ = _
    rw [rescan, Shelf.candidateFiles_prior]
    decide +kernel
  have hnext : x.2.ledger.ids.next = 8 := by
    change ((rescan Shelf.files Shelf.prior).record Shelf.answer).2.2.ledger.ids.next = 8
    rw [rescan, Shelf.candidateFiles_prior]
    decide +kernel
  have hprior := follows_record Shelf.answer Shelf.start Shelf.firstScan
  obtain ⟨-, _, _, _, _, _, _, _, _, _, _, _, _, _, _, _, _, _, _, _, hearlier⟩ :=
    rescan_builds hprior (yields_record Shelf.answer (rescan Shelf.files Shelf.prior))
      (by rw [hnext]; decide)
  exact ⟨hplugins, hnext, hearlier _ [] _ (List.append_nil _).symm hprior⟩

end Registry

end PluginHost
