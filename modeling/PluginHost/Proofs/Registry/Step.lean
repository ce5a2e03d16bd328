import PluginHost.Proofs.Roster.Step

/-!
# Steps of a registry

What can happen to a registry. Every operation is a sequence of these steps, so a statement about
all reachable registries is proved for one step and for a fetch.

* **`Registry.Step`**: a step of the roster, a plugin that comes, an attempt that fails, a snapshot
  that is zeroed. **`Registry.Fetch`**: a fetch, which writes the snapshot.
* **`Registry.Consistent`**: the roster is consistent, and its handles have been given out.
* **`Step.consistent`**, **`Fetch.consistent`**: a registry stays consistent.
* **`Steps.invariant`**: what one step keeps, several steps keep.
-/

namespace PluginHost

open Interaction Transcript

namespace Registry

variable {r s : Registry} {p q : Plugin} {t u : Transcript}

/-! ## Steps -/

/-- What can happen to a registry besides a fetch. -/
inductive Step (r : Registry) : Transcript → Registry → Prop
  | roster (s : Roster) (t : Transcript) (h : r.roster.Step t s) : Step r t { r with roster := s }
  | born (p : Plugin) (t : Transcript) (l : Ledger) (hb : p.Born t)
      (hh : p.handle = r.ledger.nextHandle) (hl : l.nextHandle = r.ledger.nextHandle + 1) :
      Step r t { r with ledger := l, roster := ⟨r.roster.plugins ++ [p], r.roster.provider⟩ }
  | failed (who : Occupant) (t : Transcript) (l : Ledger) (ht : Plugin.Stillborn who t)
      (hh : who.handle = r.ledger.nextHandle) (hl : l.nextHandle = r.ledger.nextHandle + 1) :
      Step r t { r with ledger := l }
  | zeroed : Step r [] { r with snapshot := .zeroed }
  | configured (builtIns : List BuiltIn) (allowed : Bool) :
      Step r [] { r with builtIns := builtIns, positionalDefault := allowed }

/-- A fetch that brought a frame from the provider. -/
inductive Fetch (r : Registry) : Exchange → Registry → Prop
  | frame (p : Plugin) (e : Exchange) (f : Frame) (c : ChangeCache UInt8 × ChangeCache UInt32)
      (hp : p ∈ r.plugins) (ha : p.active = true) (hf : e.frame? = some (p.who, f))
      (hc : Plugin.CoherentCaches c) :
      Fetch r e { r with
        roster := r.roster.update (p.withCaches c)
        snapshot := (r.snapshot.apply f).sanitized }

/-- What can happen to a registry in several steps. -/
abbrev Steps : Registry → Transcript → Registry → Prop := PluginHost.Steps Step

namespace Steps

/-- Steps of the roster are steps of the registry. -/
theorem of_roster {s : Roster} (h : r.roster.Steps t s) : r.Steps t { r with roster := s } := by
  induction h with
  | refl => exact .refl r
  | tail _ hs ih => exact ih.tail (.roster _ _ hs)

/-- No step but a fetch brings a frame. -/
theorem frames (h : r.Steps t s) : t.frames = [] := by
  induction h with
  | refl => rfl
  | tail _ hs ih =>
    rw [Transcript.frames_append, ih, List.nil_append]
    cases hs with
    | roster _ _ h => exact h.frames
    | born p _ l hb hh hl => exact hb.restful.frames
    | failed who _ l ht hh hl => exact ht.restful.frames
    | zeroed => rfl
    | configured => rfl

end Steps

/-! ## Consistency -/

/-- The roster is consistent, and its handles have been given out. -/
structure Consistent (r : Registry) : Prop where
  roster : r.roster.Consistent
  bounded : ∀ p ∈ r.plugins, p.handle < r.ledger.nextHandle

theorem consistent_new (directories : PluginDirectories) : (new directories).Consistent :=
  ⟨Roster.consistent_empty, by simp [new, plugins]⟩

/-- **One step keeps the registry consistent.** The cases are those of the step: the roster goes on
by itself, or a plugin is born, or an attempt fails. -/
theorem Step.consistent (h : r.Step t s) (hc : r.Consistent) : s.Consistent := by
  cases h with
  | roster s _ h =>
    refine ⟨h.consistent hc.roster, fun q hq => ?_⟩
    obtain ⟨p, hp, hw⟩ := h.known hq
    have hh : p.handle = q.handle := congrArg Occupant.handle hw
    exact hh ▸ hc.bounded p hp
  | born p _ l hb hh hl =>
    obtain ⟨-, ha⟩ := hb.sound.flags_of_unloaded hb.unloaded
    refine ⟨⟨?_, ?_, ?_, ?_⟩, ?_⟩
    · intro q hq
      rcases List.mem_append.1 hq with hq | hq
      · exact hc.roster.sound q hq
      · rw [List.mem_singleton.1 hq]
        exact hb.sound
    · -- the handle is above all that were given out
      rw [List.map_append, List.nodup_append]
      refine ⟨hc.roster.distinct, by simp, ?_⟩
      intro n hn m hm
      obtain ⟨q, hq, rfl⟩ := List.mem_map.1 hn
      obtain rfl : m = p.handle := by simpa using hm
      have := hc.bounded q hq
      omega
    · intro q hq
      rcases List.mem_append.1 hq with hq | hq
      · exact hc.roster.held q hq
      · rw [List.mem_singleton.1 hq, ha]
        -- the new plugin is not active, and its handle was not given to who holds the place
        constructor
        · simp
        · intro hn
          obtain ⟨o, ho, hoh⟩ := hc.roster.present _ hn
          have := hc.bounded o ho
          omega
    · -- who held the place is still there
      intro n hn
      obtain ⟨o, ho, hoh⟩ := hc.roster.present n hn
      exact ⟨o, List.mem_append_left _ ho, hoh⟩
    · intro q hq
      rcases List.mem_append.1 hq with hq | hq
      · have := hc.bounded q hq
        dsimp only
        omega
      · rw [List.mem_singleton.1 hq]
        dsimp only
        omega
  | failed who _ l ht hh hl =>
    refine ⟨hc.roster, fun q hq => ?_⟩
    have := hc.bounded q hq
    dsimp only
    omega
  | zeroed => exact ⟨hc.roster, hc.bounded⟩
  | configured => exact ⟨hc.roster, hc.bounded⟩

/-- A frame changes caches and the snapshot only. -/
theorem Fetch.consistent {e : Exchange} (h : r.Fetch e s) (hc : r.Consistent) : s.Consistent := by
  obtain ⟨p, _, f, c, hp, ha, hf, hcoh⟩ := h
  refine ⟨hc.roster.withCaches hp hcoh, fun q hq => ?_⟩
  rcases Roster.mem_update.1 hq with ⟨hmem, -⟩ | ⟨rfl, -⟩
  · exact hc.bounded q hmem
  · rw [Plugin.handle_withCaches]
    exact hc.bounded p hp

/-- By induction, a sequence of steps keeps the registry consistent. -/
theorem Steps.consistent (h : r.Steps t s) (hc : r.Consistent) : s.Consistent := by
  induction h with
  | refl => exact hc
  | tail _ hs ih => exact hs.consistent ih

/-- What one step keeps of the transcript so far and the registry, several steps keep. -/
theorem Steps.invariant {P : Transcript → Registry → Prop} (h : r.Steps u s) (hc : r.Consistent)
    (hP : P t r)
    (hstep : ∀ t u r s, r.Consistent → P t r → r.Step u s → P (t ++ u) s) : P (t ++ u) s := by
  induction h with
  | refl => simpa using hP
  | tail hpre hs ih =>
    rw [← List.append_assoc]
    exact hstep _ _ _ _ (Steps.consistent hpre hc) ih hs

/-- Who has a handle that was given out before was there before. -/
theorem Steps.known (h : r.Steps t s) :
    r.ledger.nextHandle ≤ s.ledger.nextHandle ∧
      ∀ q ∈ s.plugins, q.handle < r.ledger.nextHandle → ∃ p ∈ r.plugins, p.who = q.who := by
  induction h with
  | refl => exact ⟨Nat.le_refl _, fun q hq _ => ⟨q, hq, rfl⟩⟩
  | tail _ hs ih =>
    obtain ⟨hle, hknown⟩ := ih
    cases hs with
    | roster o _ h =>
      refine ⟨hle, fun q hq hlt => ?_⟩
      obtain ⟨p, hp, hw⟩ := h.known hq
      have hh : p.handle = q.handle := congrArg Occupant.handle hw
      obtain ⟨p', hp', hw'⟩ := hknown p hp (by omega)
      exact ⟨p', hp', hw'.trans hw⟩
    | born p _ l hb hh hl =>
      refine ⟨by dsimp only; omega, fun q hq hlt => ?_⟩
      rcases List.mem_append.1 hq with hq | hq
      · exact hknown q hq hlt
      · -- the handle of this one is new
        rw [List.mem_singleton.1 hq] at hlt
        omega
    | failed who _ l ht hh hl => exact ⟨by dsimp only; omega, hknown⟩
    | zeroed => exact ⟨hle, hknown⟩
    | configured => exact ⟨hle, hknown⟩

end Registry

end PluginHost
