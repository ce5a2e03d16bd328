import PluginHost.Proofs.Registry.Routing

/-!
# Audio through the plugins

A buffer of samples goes through a hook of every plugin that has it, in the order of the identities,
and each works on what the ones before it left.

* **`AudioHook`**: one of the four hooks. **`AudioTurn`**: one plugin's work on a buffer.
* **`Linked`**: turns one after the other.
* **`AudioHook.Ran`**: what comes of a hook of one plugin.
* **`Registry.Piped`**: what comes of a buffer that goes through all of them.
* **`Linked.drop_eq`**, **`Linked.eq_foldl`**: hooks that write no more than was announced to them.
* **`audio_pipeline`**: this holds of the four broadcasts after every history.
-/

namespace PluginHost

open Interaction Transcript

variable {α : Type}

/-! ## Hooks -/

/-- A hook for audio: the function that it is, and a call of it with its answer. -/
structure AudioHook (α : Type) where
  entry : EntryPoint
  exchange : Occupant → AudioBlock α → AudioReply α → Exchange

/-- The hook for captured samples. -/
def AudioHook.input (speech : Bool) : AudioHook Int16 :=
  ⟨.audioInput, fun who block r => ⟨.plugin who (.audioInput block speech), r⟩⟩

/-- The hook for played samples at a stage. -/
def AudioStage.hook : AudioStage → AudioHook Binary32
  | fetched speech user =>
    ⟨.audioFetched, fun who block r => ⟨.plugin who (.audioFetched block speech user), r⟩⟩
  | processed speech user =>
    ⟨.audioProcessed, fun who block r => ⟨.plugin who (.audioProcessed block speech user), r⟩⟩
  | output => ⟨.audioOutput, fun who block r => ⟨.plugin who (.audioOutput block), r⟩⟩

/-- One plugin gets a buffer and answers. -/
structure AudioTurn (α : Type) where
  plugin : Plugin
  before : List α
  reply : AudioReply α

namespace AudioTurn

/-- The buffer after the turn. -/
def after (x : AudioTurn α) : List α := writeBack x.before x.reply.samples

/-- The call of a turn, with so many whole frames in the buffer. -/
def exchange (hk : AudioHook α) (frames : Nat) (channels : UInt16) (x : AudioTurn α) : Exchange :=
  hk.exchange x.plugin.who ⟨x.before, frames, channels⟩ x.reply

/-- From the `n`-th sample on the hook left the buffer as it was. -/
def Within (n : Nat) (x : AudioTurn α) : Prop := x.reply.samples.drop n = x.before.drop n

end AudioTurn

/-- Turns one after the other, from one buffer to another. Each starts with what the one before it
left. -/
def Linked : List α → List (AudioTurn α) → List α → Prop
  | first, [], last => last = first
  | first, x :: xs, last => x.before = first ∧ Linked x.after xs last

/-! ## Frames -/

/-- The announced frames are those that the buffer holds, unless there are no channels or too many
frames. -/
theorem frameCount_eq {n : Nat} {channels : UInt16} :
    frameCount n channels =
      if channels = 0 ∨ 2 ^ 32 ≤ n / channels.toNat then none else some (n / channels.toNat) := by
  unfold frameCount
  by_cases hc : channels = 0
  · simp [hc]
  · simp only [hc, if_false, false_or]
    split <;> split <;> first | rfl | omega

theorem writeBack_of_length {before after : List α} (h : after.length = before.length) :
    writeBack before after = after := by
  simp [writeBack, ← h]

/-- What a hook leaves alone at the end of a buffer stays as it is when the buffer is written
back. -/
theorem drop_writeBack {before after : List α} {n : Nat} (hn : n ≤ before.length)
    (h : after.drop n = before.drop n) : (writeBack before after).drop n = before.drop n := by
  have hlength : after.length - n = before.length - n := by
    simpa using congrArg List.length h
  rcases Nat.lt_or_eq_of_le hn with hlt | rfl
  · rw [writeBack_of_length (by omega), h]
  · rw [List.drop_length, List.drop_eq_nil_of_le (by rw [length_writeBack])]

namespace Linked

variable {first last : List α} {xs : List (AudioTurn α)} {n : Nat}

/-- What no hook writes to is the same all the time. -/
theorem drop_eq (h : Linked first xs last) (hn : n ≤ first.length) (hw : ∀ x ∈ xs, x.Within n) :
    (∀ x ∈ xs, x.before.drop n = first.drop n) ∧ last.drop n = first.drop n := by
  induction xs generalizing first with
  | nil => exact ⟨by simp, by rw [show last = first from h]⟩
  | cons x xs ih =>
    obtain ⟨rfl, h⟩ := h
    obtain ⟨hx, hw⟩ := List.forall_mem_cons.1 hw
    have hdrop : x.after.drop n = x.before.drop n := drop_writeBack hn hx
    obtain ⟨hall, hlast⟩ := ih h (by rw [AudioTurn.after, length_writeBack]; exact hn) hw
    exact ⟨List.forall_mem_cons.2 ⟨rfl, fun y hy => (hall y hy).trans hdrop⟩, hlast.trans hdrop⟩

/-- What the hooks do to the announced samples comes one after the other. -/
theorem eq_foldl {effect : Plugin → List α → List α} (h : Linked first xs last)
    (hn : n ≤ first.length) (he : ∀ p b, (effect p b).length = b.length)
    (hx : ∀ x ∈ xs, x.reply.samples = effect x.plugin (x.before.take n) ++ x.before.drop n) :
    last = (xs.map (·.plugin)).foldl (fun b p => effect p b) (first.take n) ++ first.drop n := by
  induction xs generalizing first with
  | nil => rw [show last = first from h]; simp
  | cons x xs ih =>
    obtain ⟨rfl, h⟩ := h
    obtain ⟨hx, hxs⟩ := List.forall_mem_cons.1 hx
    have hafter : x.after = effect x.plugin (x.before.take n) ++ x.before.drop n := by
      rw [AudioTurn.after, writeBack_of_length, hx]
      simp [hx, he]
      omega
    have hlen : (effect x.plugin (x.before.take n)).length = n := by
      rw [he, List.length_take]
      omega
    rw [ih h (by rw [AudioTurn.after, length_writeBack]; exact hn) hxs, hafter]
    simp [hlen]

end Linked

/-! ## One plugin -/

/-- What comes of a hook of one plugin. -/
inductive AudioHook.Ran (hk : AudioHook α) (channels : UInt16) (p : Plugin) (samples : List α) :
    Transcript → Bool × List α → Prop
  | unfit (hn : frameCount samples.length channels = none) :
      Ran hk channels p samples [] (false, samples)
  | absent (he : p.exports hk.entry = false) : Ran hk channels p samples [] (false, samples)
  | called {frames : Nat} (hn : frameCount samples.length channels = some frames)
      (he : p.exports hk.entry = true) (r : AudioReply α) :
      Ran hk channels p samples [hk.exchange p.who ⟨samples, frames, channels⟩ r]
        (r.modified, writeBack samples r.samples)

namespace Plugin

variable {p : Plugin} {channels : UInt16} {t : Transcript}

/-- A hook that is missing leaves the buffer as it is. -/
theorem ran_of_heard (hk : AudioHook α) {samples : List α} {frames : Nat} {r : AudioReply α}
    (hn : frameCount samples.length channels = some frames)
    (ht : t = if p.exports hk.entry then [hk.exchange p.who ⟨samples, frames, channels⟩ r] else [])
    (hr : p.exports hk.entry = false → r = ⟨false, samples⟩) :
    hk.Ran channels p samples t (r.modified, writeBack samples r.samples) := by
  subst ht
  cases he : p.exports hk.entry with
  | true => exact .called hn he r
  | false =>
    obtain rfl := hr he
    rw [writeBack_self]
    exact .absent he

/-- What the hook on microphone input does: a buffer that fits is shown once to a plugin that has
the hook, and written back. -/
theorem audioInput_ran {samples : List Int16} {speech : Bool} {x : Bool × List Int16}
    (h : Yields (p.audioInput samples channels speech) t x) :
    (AudioHook.input speech).Ran channels p samples t x := by
  unfold audioInput at h
  split at h
  · rename_i hn
    obtain ⟨rfl, rfl⟩ := yields_done.1 h
    exact .unfit hn
  · rename_i frames hn
    obtain ⟨_, _, r, rfl, h₁, h₂⟩ := yields_bind.1 h
    obtain ⟨rfl, rfl⟩ := yields_done.1 h₂
    rw [List.append_nil]
    exact ran_of_heard (.input speech) hn (callOr_inv h₁).1 (callOr_inv h₁).2

/-- The same for the hooks on floating-point samples. -/
theorem audioStage_ran {stage : AudioStage} {samples : List Binary32} {x : Bool × List Binary32}
    (h : Yields (p.audioStage stage samples channels) t x) :
    stage.hook.Ran channels p samples t x := by
  unfold audioStage at h
  split at h
  · rename_i hn
    obtain ⟨rfl, rfl⟩ := yields_done.1 h
    exact .unfit hn
  · -- the hooks differ in the call and in nothing else
    rename_i frames hn
    cases stage <;>
    · obtain ⟨_, _, r, rfl, h₁, h₂⟩ := yields_bind.1 h
      obtain ⟨rfl, rfl⟩ := yields_done.1 h₂
      rw [List.append_nil]
      exact ran_of_heard (AudioStage.hook _) hn (callOr_inv h₁).1 (callOr_inv h₁).2

end Plugin

/-! ## All plugins -/

namespace Registry

variable {hk : AudioHook α} {channels : UInt16} {ps : List Plugin} {samples : List α}
  {hook : Plugin → List α → Interaction (Bool × List α)} {t : Transcript} {x : Bool × List α}

/-- One step of a pipeline, after plugins of which one or none changed the buffer. -/
def pipeStep (hook : Plugin → List α → Interaction (Bool × List α)) (b : Bool × List α)
    (p : Plugin) : Interaction (Bool × List α) := do
  let (changed, samples) ← hook p b.2
  return (changed || b.1, samples)

theorem pipeline_eq : pipeline hook ps samples = foldM (pipeStep hook) (false, samples) ps := rfl

variable (hhook : ∀ p samples t x, Yields (hook p samples) t x → hk.Ran channels p samples t x)
include hhook

/-- A buffer that does not fit the channels is shown to nobody. -/
theorem pipeline_unfit {b : Bool} (hn : frameCount samples.length channels = none)
    (h : Yields (foldM (pipeStep hook) (b, samples) ps) t x) : t = [] ∧ x = (b, samples) := by
  induction ps generalizing t with
  | nil => exact yields_foldM_nil.1 h
  | cons p ps ih =>
    obtain ⟨u, v, y, rfl, h₁, h₂⟩ := yields_foldM_cons.1 h
    obtain ⟨_, _, z, rfl, h₃, h₄⟩ := yields_bind.1 h₁
    obtain ⟨rfl, rfl⟩ := yields_done.1 h₄
    cases hhook _ _ _ _ h₃ with
    | unfit | absent =>
      obtain ⟨rfl, hx⟩ := ih h₂
      exact ⟨rfl, hx⟩
    | called hfits => simp [hn] at hfits

/-- **A buffer that fits goes round.** Induction on the plugins: each one that has the hook is
called once, with the buffer that the one before it left, and the result says whether any of them
changed it. -/
theorem pipeline_fit {b : Bool} {frames : Nat}
    (hn : frameCount samples.length channels = some frames)
    (h : Yields (foldM (pipeStep hook) (b, samples) ps) t x) :
    ∃ turns : List (AudioTurn α), turns.map (·.plugin) = ps.filter (·.exports hk.entry) ∧
      t = turns.map (AudioTurn.exchange hk frames channels) ∧ Linked samples turns x.2 ∧
      (x.1 = true ↔ b = true ∨ ∃ y ∈ turns, y.reply.modified = true) := by
  induction ps generalizing b samples t with
  | nil =>
    obtain ⟨rfl, rfl⟩ := yields_foldM_nil.1 h
    exact ⟨[], rfl, rfl, rfl, by simp⟩
  | cons p ps ih =>
    obtain ⟨u, v, y, rfl, h₁, h₂⟩ := yields_foldM_cons.1 h
    obtain ⟨_, _, z, rfl, h₃, h₄⟩ := yields_bind.1 h₁
    obtain ⟨rfl, rfl⟩ := yields_done.1 h₄
    cases hhook _ _ _ _ h₃ with
    | unfit hnone => simp [hn] at hnone
    | absent he =>
      obtain ⟨turns, hplugins, rfl, hlinked, hmod⟩ := ih hn h₂
      exact ⟨turns, by rw [hplugins, List.filter_cons, if_neg (by simp [he])], rfl, hlinked,
        by simpa using hmod⟩
    | @called frames' hn' he r =>
      obtain rfl : frames' = frames := Option.some.inj (hn'.symm.trans hn)
      obtain ⟨turns, hplugins, rfl, hlinked, hmod⟩ := ih (by rw [length_writeBack]; exact hn) h₂
      refine ⟨⟨p, samples, r⟩ :: turns, ?_, rfl, ⟨rfl, hlinked⟩, ?_⟩
      · rw [List.map_cons, hplugins, List.filter_cons, if_pos he]
      · rw [hmod]
        simp [or_comm, or_assoc]

end Registry

/-! ## Every history -/

/-- The samples that are announced to a hook. -/
def announced (frames : Nat) (channels : UInt16) : Nat := frames * channels.toNat

/-- A buffer went through a hook: who had a turn, with which calls, and what came of it. -/
structure Registry.Piped (r : Registry) (hk : AudioHook α) (frames : Nat) (channels : UInt16)
    (samples : List α) (t : Transcript) (x : Bool × List α) (turns : List (AudioTurn α)) :
    Prop where
  plugins : turns.map (·.plugin) = r.hearers hk.entry
  calls : t = turns.map (AudioTurn.exchange hk frames channels)
  linked : Linked samples turns x.2
  modified : x.1 = true ↔ ∃ y ∈ turns, y.reply.modified = true
  bounds : frames * channels.toNat ≤ samples.length ∧ samples.length < (frames + 1) * channels.toNat
  length_rest : (samples.drop (announced frames channels)).length = samples.length % channels.toNat
  /-- What was not announced stays as it is if every plugin keeps to what was announced. -/
  rest : (∀ y ∈ turns, y.Within (announced frames channels)) →
    (∀ y ∈ turns, y.before.drop (announced frames channels) =
      samples.drop (announced frames channels)) ∧
    x.2.drop (announced frames channels) = samples.drop (announced frames channels)
  /-- What was announced becomes what the plugins make of it one after the other. -/
  composed : ∀ effect : Plugin → List α → List α, (∀ p b, (effect p b).length = b.length) →
    (∀ y ∈ turns, y.reply.samples =
      effect y.plugin (y.before.take (announced frames channels)) ++
        y.before.drop (announced frames channels)) →
    x.2 = (r.hearers hk.entry).foldl (fun b p => effect p b)
      (samples.take (announced frames channels)) ++ samples.drop (announced frames channels)

/-- A broadcast passes buffers through a hook. -/
structure Registry.Pipes (r : Registry) (hk : AudioHook α)
    (broadcast : List α → UInt16 → Interaction (Bool × List α)) : Prop where
  unfit : ∀ samples channels t x, channels = 0 ∨ 2 ^ 32 ≤ samples.length / channels.toNat →
    Yields (broadcast samples channels) t x → t = [] ∧ x = (false, samples)
  fit : ∀ samples channels t x, channels ≠ 0 → samples.length / channels.toNat < 2 ^ 32 →
    Yields (broadcast samples channels) t x →
    ∃ turns, r.Piped hk (samples.length / channels.toNat) channels samples t x turns
  sorted : (r.hearers hk.entry).Pairwise fun p q => p.id < q.id

namespace Registry

variable {r : Registry} {hk : AudioHook α}

/-- A broadcast that runs a hook over the loaded plugins pipes the buffer through them in the order
of their identities. -/
theorem pipes_of_ran {hook : UInt16 → Plugin → List α → Interaction (Bool × List α)}
    {broadcast : List α → UInt16 → Interaction (Bool × List α)}
    (hs : r.plugins.Pairwise fun p q => p.id < q.id)
    (hhook : ∀ channels p samples t x, Yields (hook channels p samples) t x →
      hk.Ran channels p samples t x)
    (hb : ∀ samples channels,
      broadcast samples channels = pipeline (hook channels) r.loadedPlugins samples) :
    r.Pipes hk broadcast where
  unfit samples channels t x hunfit h := by
    rw [hb, pipeline_eq] at h
    exact pipeline_unfit (hhook channels) (by rw [frameCount_eq, if_pos hunfit]) h
  fit samples channels t x hc hfew h := by
    rw [hb, pipeline_eq] at h
    have hn : frameCount samples.length channels = some (samples.length / channels.toNat) := by
      rw [frameCount_eq, if_neg (by simp [hc]; omega)]
    obtain ⟨turns, hplugins, ht, hlinked, hmod⟩ := pipeline_fit (hhook channels) hn h
    have hbounds := frameCount_bounds hn
    rw [← hearers_eq] at hplugins
    refine ⟨turns, hplugins, ht, hlinked, by simpa using hmod, hbounds, ?_,
      hlinked.drop_eq hbounds.1, fun effect he hy => ?_⟩
    · rw [List.length_drop, announced, Nat.mod_eq_sub_div_mul]
    · rw [← hplugins]
      exact hlinked.eq_foldl hbounds.1 he hy
  sorted := hs.sublist (List.filter_sublist ..)

/-- A registry that was reached in some history. Captured samples, and played samples at every
stage, go through the plugins in the order of their identities. -/
theorem audio_pipeline {directories : PluginDirectories} {h : History}
    (hf : (new directories).Follows h r) :
    (∀ speech, r.Pipes (AudioHook.input speech) fun samples channels =>
      r.audioInput samples channels speech) ∧
    ∀ stage : AudioStage, r.Pipes stage.hook fun samples channels =>
      r.audioStage stage samples channels :=
  ⟨fun _ => pipes_of_ran hf.ordered.sorted (fun _ _ _ _ _ => Plugin.audioInput_ran) fun _ _ => rfl,
    fun _ => pipes_of_ran hf.ordered.sorted (fun _ _ _ _ _ => Plugin.audioStage_ran) fun _ _ => rfl⟩

end Registry

namespace Switchboard

/-- What a plugin does to every announced sample. -/
def retouch (f : Int16 → Int16) (modified : Bool) (block : AudioBlock Int16) : AudioReply Int16 :=
  ⟨modified, (block.samples.take (announced block.frames block.channels)).map f ++
    block.samples.drop (announced block.frames block.channels)⟩

/-- The second plugin adds one, the third changes nothing, and the fourth doubles. -/
def mixing : (q : Query) → q.Reply
  | .plugin ⟨_, .builtIn 1⟩ (.audioInput block _) => retouch (· + 1) true block
  | .plugin ⟨_, .builtIn 2⟩ (.audioInput block _) => retouch id false block
  | .plugin ⟨_, .builtIn 3⟩ (.audioInput block _) => retouch (2 * ·) true block
  | q => answer q

end Switchboard

namespace Registry

/-- Five samples for two channels are two frames, and the last sample is left over. -/
theorem audio_pipeline_switchboard :
    let r := Switchboard.start.2
    let x := (r.audioInput [1, 2, 3, 4, 5] 2 true).record Switchboard.mixing
    (new ⟨none, none⟩).Follows Switchboard.start.1 r ∧
      (∃ turns, r.Piped (AudioHook.input true) 2 2 [1, 2, 3, 4, 5] x.1 x.2 turns) ∧
      x.2 = (true, [4, 6, 8, 10, 5]) ∧ x.1.map (·.handle?) = [some 1, some 2, some 3] ∧
      ∀ t y, Yields (r.audioInput [1, 2] 0 true) t y → t = [] ∧ y = (false, [1, 2]) := by
  intro r x
  have hf : (new ⟨none, none⟩).Follows Switchboard.start.1 r := follows_record _ _ _
  have hpipes := (audio_pipeline hf).1 true
  have hturns := hpipes.fit [1, 2, 3, 4, 5] 2 x.1 x.2 (by decide) (by decide) (yields_record _ _)
  exact ⟨hf, hturns, by decide +kernel, by decide +kernel,
    fun t y => hpipes.unfit _ _ t y (.inl rfl)⟩

end Registry

end PluginHost
