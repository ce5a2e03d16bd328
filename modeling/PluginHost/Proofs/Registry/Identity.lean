import PluginHost.Proofs.Registry.Purpose
import PluginHost.Proofs.Registry.Scan

/-!
# Identities

Identities are handed out in one order, one whenever code was mapped, and the plugins of a registry
stand in that order.

* **`Numbered`**: the identity of a plugin is the number of times that code was mapped up to its own
  creation.
* **`Spent`**, **`Found`**: what a scan uses up of a ledger, and what whoever it finds gets from
  there.
* **`Scanned.pairwise`**: who is found later has a later identity.
* **`Registry.Ordered`**, **`Follows.ordered`**: what holds of the identities after every history.
-/

namespace PluginHost

open Interaction Transcript

/-- The code of the plugin was mapped after so many others, and its identity says so. -/
def Numbered (n : Nat) (t : Transcript) (p : Plugin) : Prop :=
  ∃ a table b, t = a ++ ⟨.plugin p.who .load, some table⟩ :: b ∧
    p.id.toNat = min (n + Transcript.mapped a + 1) lastId.toNat

section

variable {p q : Plugin} {t u : Transcript} {n : Nat}

theorem Numbered.append (h : Numbered n t p) (u : Transcript) : Numbered n (t ++ u) p := by
  obtain ⟨a, table, b, rfl, hid⟩ := h
  exact ⟨a, table, b ++ u, by simp, hid⟩

/-- What was mapped before is counted. -/
theorem Numbered.after (h : Numbered (n + t.mapped) u p) : Numbered n (t ++ u) p := by
  obtain ⟨a, table, b, rfl, hid⟩ := h
  refine ⟨t ++ a, table, b, by simp, ?_⟩
  rw [hid, Transcript.mapped_append, Nat.add_assoc n]

/-- What happens to a plugin later does not change its number. -/
theorem Numbered.of_eq (h : Numbered n t p) (hw : q.who = p.who) (hi : q.id = p.id) :
    Numbered n t q := by
  unfold Numbered
  rw [hw, hi]
  exact h

/-- The identity of a plugin is the number of mappings up to its own. -/
theorem Plugin.Attempt.numbered {source : Source} {generation : Generation} {l l' : Ledger}
    (h : Attempt source generation l t (some p) l') (hl : l.Counts n) : Numbered n t p := by
  cases h with
  | made table u p hu hg hb hw hi hp =>
    refine ⟨[], table, u, by rw [hw]; rfl, ?_⟩
    rw [hi, hl]
    rfl

end

/-! ## Scans -/

namespace Registry

variable {source : Source} {gs : List Generation} {cs : List (Source × List Generation)}
  {l l' : Ledger} {o : Option Plugin} {os : List (Option Plugin)} {n : Nat} {t : Transcript}
  {p : Plugin}

/-- What is left of the ledger when a source has been probed. -/
structure Spent (l : Ledger) (t : Transcript) (l' : Ledger) : Prop where
  counts : ∀ n, l.Counts n → l'.Counts (n + t.mapped)
  next_le : l.ids.next ≤ l'.ids.next
  handle_le : l.nextHandle ≤ l'.nextHandle

theorem Spent.refl : Spent l [] l := ⟨fun _ h => h, UInt32.le_refl _, Nat.le_refl _⟩

/-- What is spent in turn adds up. -/
theorem Spent.trans {u : Transcript} {l'' : Ledger} (h : Spent l t l') (h' : Spent l' u l'') :
    Spent l (t ++ u) l'' where
  counts n hn := by
    rw [Transcript.mapped_append, ← Nat.add_assoc]
    exact h'.counts _ (h.counts n hn)
  next_le := UInt32.le_trans h.next_le h'.next_le
  handle_le := Nat.le_trans h.handle_le h'.handle_le

/-- What is known of a plugin that was found while a part of the ledger was spent. -/
structure Found (l : Ledger) (t : Transcript) (l' : Ledger) (p : Plugin) : Prop where
  numbered : ∀ n, l.Counts n → Numbered n t p
  next_le : l.ids.next ≤ p.id
  precedes : Precedes p.id l'.ids.next
  handle_le : l.nextHandle ≤ p.handle
  handle_lt : p.handle < l'.nextHandle

/-- A plugin that was found stays so while more of the ledger is spent. -/
theorem Found.before {u : Transcript} {l'' : Ledger} (h : Found l t l' p) (h' : Spent l' u l'') :
    Found l (t ++ u) l'' p where
  numbered n hn := (h.numbered n hn).append u
  next_le := h.next_le
  precedes := h.precedes.trans_le h'.next_le
  handle_le := h.handle_le
  handle_lt := Nat.lt_of_lt_of_le h.handle_lt h'.handle_le

/-- A plugin is found after part of the ledger has been spent. -/
theorem Found.after {u : Transcript} {l'' : Ledger} (h : Spent l t l') (h' : Found l' u l'' p) :
    Found l (t ++ u) l'' p where
  numbered n hn := (h'.numbered _ (h.counts n hn)).after
  next_le := UInt32.le_trans h.next_le h'.next_le
  precedes := h'.precedes
  handle_le := Nat.le_trans h.handle_le h'.handle_le
  handle_lt := h'.handle_lt

/-- An attempt moves the ledger on by what it maps. -/
theorem attempt_spent {g : Generation} (h : Plugin.Attempt source g l t o l') : Spent l t l' where
  counts _ hn := h.counts hn
  next_le := h.next_le
  handle_le := by rw [h.nextHandle_eq]; exact Nat.le_succ _

theorem attempt_found {g : Generation} (h : Plugin.Attempt source g l t (some p) l') :
    Found l t l' p where
  numbered _ hn := h.numbered hn
  next_le := by rw [h.id_eq.1]; exact UInt32.le_refl _
  precedes := h.id_eq.2
  handle_le := Nat.le_of_eq h.handle_eq.symm
  handle_lt := by rw [h.handle_eq, h.nextHandle_eq]; exact Nat.lt_succ_self _

/-- The same for a source that is tried as one generation after another. -/
theorem Probed.spent (h : Probed source gs l t o l') : Spent l t l' := by
  induction h with
  | exhausted => exact .refl
  | made g gs h => exact attempt_spent h
  | next g h hr ih => exact (attempt_spent h).trans ih

theorem Probed.found (h : Probed source gs l t (some p) l') : Found l t l' p := by
  generalize ho : some p = o at h
  induction h with
  | exhausted => simp at ho
  | made g gs h =>
    obtain rfl := Option.some.inj ho
    exact attempt_found h
  | next g h hr ih => exact .after (attempt_spent h) (ih ho)

/-- The same for all sources of a scan. -/
theorem Scanned.spent (h : Scanned cs l t os l') : Spent l t l' := by
  induction h with
  | nil => exact .refl
  | cons h hr ih => exact h.spent.trans ih

/-- Whoever a scan found bears a number that was spent in it. -/
theorem Scanned.found (h : Scanned cs l t os l') : ∀ p ∈ os.reduceOption, Found l t l' p := by
  intro p hp
  rw [List.reduceOption_mem_iff] at hp
  induction h with
  | nil => simp at hp
  | cons h hr ih =>
    rcases List.mem_cons.1 hp with rfl | hp
    · exact h.found.before hr.spent
    · exact .after h.spent (ih hp)

/-- Who is found later has a later identity. -/
theorem Scanned.pairwise (h : Scanned cs l t os l') :
    os.reduceOption.Pairwise fun p q => Precedes p.id q.id := by
  induction h with
  | nil => exact .nil
  | @cons _ _ _ _ _ _ _ o os h hr ih =>
    rw [reduceOption_cons]
    cases o with
    | none => exact ih
    | some p => exact .cons (fun q hq => h.found.precedes.trans_le (hr.found q hq).next_le) ih

/-! ## Plugins that share an identity -/

/-- The latest of each identity are among those who came. -/
theorem latest_sublist (ps : List Plugin) : (latest ps).Sublist ps := by
  induction ps with
  | nil => exact .slnil
  | cons p ps ih =>
    unfold latest
    split
    · exact ih.cons p
    · exact ih.cons_cons p

/-- Up to the last identity no two plugins share one. -/
theorem latest_sorted {ps : List Plugin} (h : ps.Pairwise fun p q => Precedes p.id q.id) :
    (latest ps).Pairwise fun p q => p.id < q.id := by
  induction h with
  | nil => exact .nil
  | @cons p ps hp h ih =>
    unfold latest
    split
    · exact ih
    · rename_i hlast
      refine .cons (fun q hq => ?_) ih
      have hmem : q ∈ ps := (latest_sublist ps).subset hq
      rcases hp q hmem with hlt | ⟨hp, hq⟩
      · exact hlt
      · exact absurd (List.any_eq_true.2 ⟨q, hmem, by simp [hp, hq]⟩) hlast

/-- Nobody is displaced where the identities increase. -/
theorem latest_eq_self {ps : List Plugin} (h : ps.Pairwise fun p q => p.id < q.id) :
    latest ps = ps ∧ displaced ps = [] := by
  induction h with
  | nil => exact ⟨rfl, rfl⟩
  | @cons p ps hp h ih =>
    have hnone : ps.any (·.id == p.id) = false := by
      simp only [List.any_eq_false, beq_iff_eq]
      exact fun q hq e => UInt32.lt_irrefl _ (e ▸ hp q hq)
    simp [latest, displaced, hnone, ih]

end Registry

/-! ## Operations that register nobody -/

namespace Roster

variable {o o' : Roster} {p q : Plugin} {t : Transcript}

/-- Replacing a plugin changes nothing that does not depend on what was replaced. -/
theorem map_update {α : Type} {f : Plugin → α} (hc : o.Consistent) (hp : p ∈ o.plugins)
    (hh : q.handle = p.handle) (hf : f q = f p) : (o.update q).plugins.map f = o.plugins.map f := by
  simp only [update, List.map_map]
  apply List.map_congr_left
  intro p' hp'
  by_cases he : p'.handle = q.handle
  · obtain rfl := hc.eq_of_handle_eq hp' hp (he.trans hh)
    simp [he, hf]
  · simp [he]

/-- Plugins stay what they were created as, in their order; some may go. -/
theorem Step.newborns (h : o.Step t o') (hc : o.Consistent) :
    (o'.plugins.map Plugin.newborn).Sublist (o.plugins.map Plugin.newborn) := by
  cases h with
  | looked => exact .refl _
  | change p p' _ hp h => rw [map_update hc hp h.handle_eq h.newborn_eq]
  | accepted p processes _ hp hl he hn ht =>
    have hsame := map_update (q := { p with active := true }) (f := Plugin.newborn) hc hp rfl rfl
    exact hsame ▸ .refl _
  | released p hp ha =>
    have hsame := map_update (q := { p with active := false }) (f := Plugin.newborn) hc hp rfl rfl
    exact hsame ▸ .refl _
  | removed p hp hl => exact (List.filter_sublist ..).map _

end Roster

namespace Registry

variable {r s : Registry} {p q : Plugin} {op : Operation} {t : Transcript} {h : History}

theorem Step.handle_le (h : r.Step t s) : r.ledger.nextHandle ≤ s.ledger.nextHandle := by
  cases h with
  | born p _ l hb hh hl => exact hl ▸ Nat.le_succ _
  | failed who _ l ht hh hl => exact hl ▸ Nat.le_succ _
  | _ => exact Nat.le_refl _

/-- Handles are never taken back. -/
theorem Steps.handle_le (h : r.Steps t s) : r.ledger.nextHandle ≤ s.ledger.nextHandle := by
  induction h with
  | refl => exact Nat.le_refl _
  | tail _ hs ih => exact Nat.le_trans ih hs.handle_le

/-- As long as no source is used nobody comes. -/
theorem Step.newborns (h : r.Step t s) (hc : r.Consistent)
    (hh : s.ledger.nextHandle = r.ledger.nextHandle) :
    (s.plugins.map Plugin.newborn).Sublist (r.plugins.map Plugin.newborn) := by
  cases h with
  | roster o _ h => exact h.newborns hc.roster
  | born p _ l hb hlow hl => exact absurd (hl.symm.trans hh) (Nat.succ_ne_self _)
  | _ => exact .refl _

/-- The same for a sequence of steps. -/
theorem Steps.newborns (h : r.Steps t s) (hc : r.Consistent)
    (hh : s.ledger.nextHandle = r.ledger.nextHandle) :
    (s.plugins.map Plugin.newborn).Sublist (r.plugins.map Plugin.newborn) := by
  induction h with
  | refl => exact .refl _
  | tail h hs ih =>
    have hle := Steps.handle_le h
    have hle' := hs.handle_le
    exact (hs.newborns (Steps.consistent h hc) (by omega)).trans (ih (by omega))

/-- The same for an operation. A frame changes caches only. -/
theorem Performed.newborns (h : r.Performed t s) (hc : r.Consistent)
    (hh : s.ledger.nextHandle = r.ledger.nextHandle) :
    (s.plugins.map Plugin.newborn).Sublist (r.plugins.map Plugin.newborn) := by
  cases h with
  | steps h => exact h.newborns hc hh
  | @fetch _ _ r₁ r₂ _ _ h hf h' =>
    have hc₁ := h.consistent hc
    have hc₂ := hf.consistent hc₁
    have hle := h.handle_le
    have hle' := h'.handle_le
    -- a frame changes caches only
    have hsame : r₂.ledger = r₁.ledger ∧
        r₂.plugins.map Plugin.newborn = r₁.plugins.map Plugin.newborn := by
      obtain ⟨p, _, f, c, hp, ha, hfr, hcoh⟩ := hf
      exact ⟨rfl, Roster.map_update hc₁.roster hp (by simp) (by simp)⟩
    rw [hsame.1] at hle'
    have hlast := h'.newborns hc₂ (by rw [hsame.1]; omega)
    rw [hsame.2] at hlast
    exact hlast.trans (h.newborns hc (by omega))

/-- Only a scan uses sources. -/
theorem perform_ledger (hop : ∀ fs, op ≠ .rescan fs) (h : Yields (op.perform r) t s) :
    s.ledger = r.ledger := by
  cases op with
  | rescan fs => exact absurd rfl (hop fs)
  | load id =>
    obtain ⟨x, rfl, h₁⟩ := yields_map.1 h
    unfold load at h₁
    split at h₁
    · obtain ⟨rfl, rfl⟩ := yields_done.1 h₁
      rfl
    · obtain ⟨_, _, y, rfl, -, h₂⟩ := yields_bind.1 h₁
      obtain ⟨rfl, rfl⟩ := yields_done.1 h₂
      rfl
  | unload id =>
    obtain ⟨x, rfl, h₁⟩ := yields_map.1 h
    unfold unload at h₁
    split at h₁
    · obtain ⟨rfl, rfl⟩ := yields_done.1 h₁
      rfl
    · obtain ⟨_, _, y, rfl, -, h₂⟩ := yields_bind.1 h₁
      dsimp only at h₂
      split at h₂
      · obtain ⟨rfl, rfl⟩ := yields_done.1 h₂
        rfl
      · obtain ⟨_, _, q, rfl, -, h₃⟩ := yields_bind.1 h₂
        obtain ⟨rfl, rfl⟩ := yields_done.1 h₃
        rfl
  | enableFor id on =>
    change Yields (r.enableFor id on) t s at h
    unfold enableFor at h
    split at h
    · obtain ⟨rfl, rfl⟩ := yields_done.1 h
      rfl
    · obtain ⟨_, _, o, rfl, -, h₂⟩ := Legacy.yields_ite_bind h
      dsimp only at h₂
      split at h₂
      · obtain ⟨rfl, rfl⟩ := yields_done.1 h₂
        rfl
      · obtain ⟨_, _, q, rfl, -, h₃⟩ := yields_bind.1 h₂
        obtain ⟨rfl, rfl⟩ := yields_done.1 h₃
        rfl
  | tick =>
    obtain ⟨x, rfl, h₁⟩ := yields_map.1 h
    obtain ⟨_, _, o, rfl, -, h₂⟩ := yields_bind.1 h₁
    split at h₂
    · obtain ⟨rfl, rfl⟩ := yields_done.1 h₂
      rfl
    · obtain ⟨_, _, ⟨proceed, q, snapshot⟩, rfl, -, h₃⟩ := yields_bind.1 h₂
      cases proceed with
      | true =>
        obtain ⟨rfl, rfl⟩ := yields_done.1 h₃
        rfl
      | false =>
        obtain ⟨_, _, _, rfl, -, h₄⟩ := yields_bind.1 h₃
        obtain ⟨_, _, _, rfl, -, h₅⟩ := yields_bind.1 h₄
        obtain ⟨rfl, rfl⟩ := yields_done.1 h₅
        rfl
  | allowByDefault | registerBuiltIn =>
    obtain ⟨rfl, rfl⟩ := yields_done.1 h
    rfl
  | _ =>
    obtain ⟨_, rfl, -⟩ := yields_map.1 h
    rfl

/-! ## Every history -/

/-- What holds of the identities of a registry after everything that was asked. -/
structure Ordered (r : Registry) (t : Transcript) : Prop where
  counts : r.ledger.Counts t.mapped
  sorted : r.plugins.Pairwise fun p q => p.id < q.id
  numbered : ∀ p ∈ r.plugins, Numbered 0 t p
  precedes : ∀ p ∈ r.plugins, Precedes p.id r.ledger.ids.next

theorem ordered_new (directories : PluginDirectories) : (new directories).Ordered [] :=
  ⟨Ledger.counts_initial, .nil, by simp [new, plugins], by simp [new, plugins]⟩

/-- What is left of the plugins is as ordered as they were. -/
theorem Ordered.kept {u : Transcript} (h : r.Ordered t)
    (hsub : (s.plugins.map Plugin.newborn).Sublist (r.plugins.map Plugin.newborn))
    (hl : s.ledger = r.ledger) (hu : u.mapped = 0) : s.Ordered (t ++ u) := by
  have hold : ∀ q ∈ s.plugins, ∃ p ∈ r.plugins, q.who = p.who ∧ q.id = p.id := by
    intro q hq
    obtain ⟨p, hp, he⟩ := List.mem_map.1 (hsub.subset (List.mem_map_of_mem hq))
    refine ⟨p, hp, ?_, ?_⟩
    · rw [← Plugin.who_newborn (p := q), ← he, Plugin.who_newborn]
    · rw [← Plugin.id_newborn (p := q), ← he, Plugin.id_newborn]
  refine ⟨?_, ?_, fun q hq => ?_, fun q hq => ?_⟩
  · rw [hl, Transcript.mapped_append, hu]
    exact h.counts
  · have hids : (r.plugins.map Plugin.newborn).Pairwise fun p q => p.id < q.id := by
      rw [List.pairwise_map]
      simpa using h.sorted
    simpa [List.pairwise_map] using hids.sublist hsub
  · obtain ⟨p, hp, hw, hi⟩ := hold q hq
    exact ((h.numbered p hp).of_eq hw hi).append u
  · obtain ⟨p, hp, -, hi⟩ := hold q hq
    rw [hi, hl]
    exact h.precedes p hp

/-- After a scan only what it found is registered. -/
theorem Ordered.rescan {fs : FileSystem} {u : Transcript} {x : Nat × Registry} (h : r.Ordered t)
    (hc : r.Consistent) (hx : Yields (rescan fs r) u x) : x.2.Ordered (t ++ u) := by
  obtain ⟨t₁, t₂, t₃, l, os, xs, rfl, hscan, hstart, hdrop, rfl⟩ := rescan_course hc hx
  have hcount : (t ++ r.clearing).mapped = t.mapped := by
    rw [Transcript.mapped_append, mapped_clearing, Nat.add_zero]
  have hbefore : r.ledger.Counts (t ++ r.clearing).mapped := hcount.symm ▸ h.counts
  have hids : (xs.map (·.2)).Pairwise fun p q => Precedes p.id q.id := by
    have hsame := hstart.map_eq (·.id) fun _ => rfl
    have hmap := List.pairwise_map.2 hscan.pairwise
    rw [← hsame] at hmap
    exact List.pairwise_map.1 hmap
  have hkept : ∀ q ∈ latest (xs.map (·.2)), ∃ p ∈ os.reduceOption, q.who = p.who ∧ q.id = p.id := by
    intro q hq
    obtain ⟨p, hp, -, hw, hi⟩ := hstart.exists_found ((latest_sublist _).subset hq)
    exact ⟨p, hp, hw, hi⟩
  refine ⟨?_, latest_sorted hids, fun q hq => ?_, fun q hq => ?_⟩
  · -- only the probing maps code
    have hdropped : t₃.mapped = 0 := asks_dropAll.mapped (by decide) hdrop
    have := hscan.spent.counts _ hbefore
    simpa [hstart.mapped, hdropped, hcount, mapped_clearing] using this
  · obtain ⟨p, hp, hw, hi⟩ := hkept q hq
    have hnum := ((hscan.found p hp).numbered _ hbefore).of_eq hw hi
    rw [← List.append_assoc, ← List.append_assoc]
    rw [← Nat.zero_add (Transcript.mapped _)] at hnum
    exact hnum.after.append _
  · obtain ⟨p, hp, -, hi⟩ := hkept q hq
    rw [hi]
    exact (hscan.found p hp).precedes

/-- Identities are those that the mappings counted, and increase along the registry, after every
history. -/
theorem Follows.ordered {directories : PluginDirectories} (hf : (new directories).Follows h s) :
    s.Ordered h.transcript := by
  induction hf with
  | nil => exact ordered_new directories
  | @snoc h r s op t hf hp ih =>
    have htr : History.transcript (h ++ [(op, t)]) = h.transcript ++ t := by
      simp [History.transcript]
    have hc := hf.consistent (consistent_new directories)
    rw [htr]
    by_cases hop : ∃ fs, op = .rescan fs
    · obtain ⟨fs, rfl⟩ := hop
      obtain ⟨x, rfl, h₁⟩ := yields_map.1 hp
      exact ih.rescan hc h₁
    · have hop' : ∀ fs, op ≠ .rescan fs := fun fs e => hop ⟨fs, e⟩
      have hl := perform_ledger hop' hp
      exact ih.kept ((perform_inv hc hp).newborns hc (by rw [hl])) hl (perform_mapped hop' hp)

end Registry

end PluginHost
