import Mathlib.Data.List.Induction
import PluginHost.Proofs.Registry.History

/-!
# The snapshot

Which operations write the snapshot, which zero it, and which leave it behind when they end the
session of the provider.

* **`perform_resets`**, **`perform_keeps`**: a tick or a scan that ends without a provider zeroes
  the snapshot; no other operation touches it.
* **`stale_iff`**: the registries without a provider whose snapshot is not zeroed. There are such:
  unloading the provider or forbidding it ends the session and keeps the snapshot until the next
  tick or scan.
* **`Follows.snapshot_eq`**: the snapshot is the frames since it was zeroed last, written one over
  the other.
* **`Follows.frames_inv`**: each of these frames is from the provider, or from a plugin whose
  session was ended by an operation that names it (**`Ousted`**).
-/

namespace PluginHost

open Interaction Transcript

/-! ## Zeroing -/

namespace Operation

/-- Ticks and scans decide anew what the snapshot is. -/
def resets : Operation → Bool
  | rescan _ | tick => true
  | _ => false

/-- The identity of the plugin that an operation takes the role of the provider from, if it has
it. -/
def deposes : Operation → Option PluginId
  | unload id | enableFor id false => some id
  | _ => none

end Operation

namespace Registry

variable {r s : Registry} {t : Transcript} {op : Operation} {h : History}
  {directories : PluginDirectories}

/-- The operation takes the role of the provider from who has it. -/
def Deposed (r : Registry) (op : Operation) : Prop :=
  ∃ id, op.deposes = some id ∧ r.providerId = some id

/-- A tick either zeroes the snapshot, and no frame that it brought goes on, or writes the frame of
the plugin that provides positional data afterwards. A provider that there was before is that
plugin. -/
theorem tick_frames {x : Bool × Registry} (hc : r.Consistent) (h : Yields r.tick t x) :
    (x.1 = false ∧ x.2.snapshot = .zeroed ∧ t.frames.any (fun y => y.2.proceed) = false) ∨
      (x.1 = true ∧ ∃ p f, x.2.providing? = some p ∧ t.frames = [(p.who, f)] ∧ f.proceed = true ∧
        x.2.snapshot = (r.snapshot.apply f).sanitized ∧
        ∀ q, r.providing? = some q → q.who = p.who) := by
  cases tick_inv hc h with
  | idle t o ho hn => exact .inl ⟨rfl, rfl, by simp [ho.frames]⟩
  | lost t u v o o' p p' snapshot ho hp hf ho' =>
    -- looking for a provider brings no frame, and the one that was fetched is the last
    have hfr : Transcript.frames (t ++ (u ++ v)) = u.frames := by
      rw [Transcript.frames_append, Transcript.frames_append, ho.frames, ho'.frames,
        List.nil_append, List.append_nil]
    refine .inl ⟨rfl, rfl, ?_⟩
    rw [hfr]
    generalize hgo : (false, p', snapshot) = y at hf
    cases hf with
    | unable hq => rfl
    | frame e f c hq hf hcoh =>
      simp only [Prod.mk.injEq] at hgo
      simp [Transcript.frames, hf, ← hgo.1]
  | fresh t o p e f c ho hp hf hcoh hgo hkeep =>
    have hco := ho.consistent hc.roster
    obtain ⟨hmem, ha⟩ := hco.providing?_eq_some.1 hp
    have hnext : (o.update (p.withCaches c)).providing? = some (p.withCaches c) :=
      (hco.withCaches hmem hcoh).providing?_eq_some.2
        ⟨Roster.mem_update.2 (.inr ⟨rfl, p, hmem, by simp⟩), by simpa⟩
    have hfr : Transcript.frames [e] = [(p.who, f)] := by simp [Transcript.frames, hf]
    refine .inr ⟨rfl, p.withCaches c, f, hnext, ?_, hgo, rfl, fun q hq => ?_⟩
    · rw [Transcript.frames_append, ho.frames, hfr, Plugin.who_withCaches, List.nil_append]
    · obtain rfl := hkeep q.handle (hc.roster.provider_of_providing? hq)
      rw [Plugin.who_withCaches, Option.some.inj (hq.symm.trans hp)]

/-- An operation that resets the snapshot leaves it zeroed unless somebody provides. -/
theorem perform_resets (hc : r.Consistent) (hop : op.resets = true)
    (h : Yields (op.perform r) t s) (hidle : s.roster.provider = none) : s.snapshot = .zeroed := by
  cases op with
  | rescan fs =>
    obtain ⟨x, rfl, h₁⟩ := yields_map.1 h
    exact (rescan_steps hc h₁).2.2
  | tick =>
    obtain ⟨x, rfl, h₁⟩ := yields_map.1 h
    rcases tick_frames hc h₁ with ⟨-, hz, -⟩ | ⟨-, p, f, hp, -⟩
    · exact hz
    · simp [providing?, Roster.providing?, hidle] at hp
  | _ => simp [Operation.resets] at hop

/-- **Other operations keep the snapshot.** The place is given up if and only if the operation
deposes the provider. -/
theorem perform_keeps (hc : r.Consistent) (hop : op.resets = false)
    (h : Yields (op.perform r) t s) :
    s.snapshot = r.snapshot ∧
      (r.Deposed op → s.roster.provider = none) ∧
      (¬ r.Deposed op → s.roster.provider = r.roster.provider) := by
  have hnot : op.deposes = none → ¬ r.Deposed op := by
    rintro hnone ⟨id, hid, -⟩
    simp [hnone] at hid
  -- an operation that names a plugin deposes it iff it is the provider
  have hcond : ∀ (id : PluginId) (n : Option Nat), op.deposes = some id →
      n = (if r.providerId = some id then none else r.roster.provider) →
      (r.Deposed op → n = none) ∧ (¬ r.Deposed op → n = r.roster.provider) := by
    intro id n hid hn
    have hiff : r.Deposed op ↔ r.providerId = some id := by simp [Deposed, hid]
    rw [hiff, hn]
    exact ⟨fun hp => if_pos hp, fun hp => if_neg hp⟩
  have hsame : op.deposes = none → s.roster.provider = r.roster.provider →
      (r.Deposed op → s.roster.provider = none) ∧
        (¬ r.Deposed op → s.roster.provider = r.roster.provider) :=
    fun hnone hs => ⟨fun hd => absurd hd (hnot hnone), fun _ => hs⟩
  cases op with
  | rescan fs => simp [Operation.resets] at hop
  | tick => simp [Operation.resets] at hop
  | load id =>
    obtain ⟨x, rfl, h₁⟩ := yields_map.1 h
    obtain ⟨-, hprov, hsnap⟩ := load_steps hc h₁
    exact ⟨hsnap, hsame rfl hprov⟩
  | unload id =>
    obtain ⟨x, rfl, h₁⟩ := yields_map.1 h
    obtain ⟨-, hsnap, hprov⟩ := unload_steps hc h₁
    exact ⟨hsnap, hcond id _ rfl hprov⟩
  | enableFor id on =>
    obtain ⟨-, hsnap, hprov⟩ := enableFor_steps hc h
    cases on with
    | true => exact ⟨hsnap, hsame rfl (by simpa using hprov)⟩
    | false => exact ⟨hsnap, hcond id _ rfl (by simpa using hprov)⟩
  | allowByDefault on =>
    obtain ⟨-, rfl⟩ := yields_done.1 h
    exact ⟨rfl, hsame rfl rfl⟩
  | registerBuiltIn b =>
    obtain ⟨-, rfl⟩ := yields_done.1 h
    exact ⟨rfl, hsame rfl rfl⟩
  | _ =>
    obtain ⟨x, rfl, -⟩ := yields_map.1 h
    exact ⟨rfl, hsame rfl rfl⟩

/-- Without a tick or a scan nothing becomes of a registry without a provider. -/
theorem Follows.stays_idle (hf : r.Follows h s) (hc : r.Consistent)
    (hn : r.roster.provider = none) (hop : ∀ x ∈ h, x.1.resets = false) :
    s.roster.provider = none ∧ s.snapshot = r.snapshot := by
  induction hf with
  | nil => exact ⟨hn, rfl⟩
  | @snoc h s s' op t hf hp ih =>
    obtain ⟨hidle, hsnap⟩ := ih fun x hx => hop x (List.mem_append_left _ hx)
    obtain ⟨hsnap', hdep, hkept⟩ := perform_keeps (hf.consistent hc) (hop (op, t) (by simp)) hp
    refine ⟨?_, hsnap'.trans hsnap⟩
    by_cases hd : s.Deposed op
    · exact hdep hd
    · exact (hkept hd).trans hidle

theorem isPositionalDataAvailable_eq_false :
    r.isPositionalDataAvailable = false ↔ r.roster.provider = none := by
  change r.roster.provider.isSome = false ↔ _
  rw [Option.isSome_eq_false_iff, Option.isNone_iff_eq_none]

/-- There is old data without a provider iff the session of the provider of that data was ended by
an operation that names it, and neither a tick nor a scan came after that. -/
theorem stale_iff (hf : (new directories).Follows h s) :
    s.isPositionalDataAvailable = false ∧ s.snapshot.isZeroed = false ↔
      ∃ pre op t post r r', h = pre ++ (op, t) :: post ∧
        (new directories).Follows pre r ∧ Yields (op.perform r) t r' ∧ r'.Follows post s ∧
        r.Deposed op ∧ r.snapshot.isZeroed = false ∧ ∀ x ∈ post, x.1.resets = false := by
  have hnew := consistent_new directories
  rw [isPositionalDataAvailable_eq_false]
  constructor
  · rintro ⟨hidle, hstale⟩
    induction hf with
    | nil => exact absurd hstale (by simp [new, Snapshot.isZeroed_zeroed])
    | @snoc h s s' op t hf hp ih =>
      have hc := hf.consistent hnew
      cases hop : op.resets with
      | true =>
        rw [perform_resets hc hop hp hidle] at hstale
        exact absurd hstale (by simp [Snapshot.isZeroed_zeroed])
      | false =>
        obtain ⟨hsnap, hdep, hkept⟩ := perform_keeps hc hop hp
        rw [hsnap] at hstale
        by_cases hd : s.Deposed op
        · -- this is the operation
          exact ⟨h, op, t, [], s, s', rfl, hf, hp, .nil, hd, hstale, by simp⟩
        · -- it was one before
          obtain ⟨pre, op', t', post, r, r', rfl, hpre, hp', hpost, hd', hz, hall⟩ :=
            ih ((hkept hd).symm.trans hidle) hstale
          refine ⟨pre, op', t', post ++ [(op, t)], r, r', by simp, hpre, hp', hpost.snoc hp, hd',
            hz, fun x hx => ?_⟩
          rcases List.mem_append.1 hx with hx | hx
          · exact hall x hx
          · rw [List.mem_singleton.1 hx]
            exact hop
  · rintro ⟨pre, op, t, post, r, r', -, hpre, hp, hpost, hd, hz, hall⟩
    have hc := hpre.consistent hnew
    have hop : op.resets = false := by
      obtain ⟨id, hid, -⟩ := hd
      cases op <;> first | rfl | simp [Operation.deposes] at hid
    obtain ⟨hsnap, hdep, -⟩ := perform_keeps hc hop hp
    obtain ⟨hidle, hsnap'⟩ :=
      hpost.stays_idle ((perform_inv hc hp).consistent hc) (hdep hd) hall
    exact ⟨hidle, by rw [hsnap', hsnap, hz]⟩

/-- A registry that has data although nobody provides any. -/
theorem idle_with_data :
    ∃ h s, (new ⟨none, none⟩).Follows h s ∧ s.isPositionalDataAvailable = false ∧
      s.snapshot.isZeroed = false :=
  ⟨_, _, follows_record (Duo.answer ⟨.one, .zero, .zero⟩) Duo.start Duo.deposed, rfl, rfl⟩

/-- The provider is not allowed positional data any more: the place is empty, and its last frame
still shows. -/
theorem stale_iff_duo :
    let x := Duo.start.record (Duo.answer ⟨.one, .zero, .zero⟩) Duo.deposed
    ∃ pre op t post r r', x.1 = pre ++ (op, t) :: post ∧
      (new ⟨none, none⟩).Follows pre r ∧ Yields (op.perform r) t r' ∧ r'.Follows post x.2 ∧
      r.Deposed op ∧ r.snapshot.isZeroed = false ∧ ∀ y ∈ post, y.1.resets = false :=
  (stale_iff (follows_record (Duo.answer ⟨.one, .zero, .zero⟩) Duo.start Duo.deposed)).1 ⟨rfl, rfl⟩

end Registry

/-! ## What the snapshot is made of -/

/-- The frames that are in the snapshot after an operation, from those that were before it. -/
def Operation.carry (op : Operation) (t : Transcript) (old : List (Occupant × Frame)) :
    List (Occupant × Frame) :=
  match op with
  | rescan _ => []
  | tick => if t.frames.any fun x => x.2.proceed then old ++ t.frames else []
  | _ => old

/-- The frames since the snapshot was zeroed last, with the plugins that they are from. -/
def History.frames (h : History) : List (Occupant × Frame) :=
  h.foldl (fun old x => x.1.carry x.2 old) []

/-- Frames written one over the other. -/
def Snapshot.portray (fs : List (Occupant × Frame)) : Snapshot :=
  fs.foldl (fun s x => (s.apply x.2).sanitized) .zeroed

/-- For each vector the last that was written, and by whom. -/
def Pose.writers (fs : List (Occupant × Frame)) : Pose (Option (Occupant × Vector3)) :=
  fs.foldl (fun w x => x.2.vectors.zipWith (fun v old => (v.map (x.1, ·)).or old) w)
    (.replicate none)

/-- The vector that a snapshot shows for what was written. -/
def Snapshot.shown (w : Option (Occupant × Vector3)) : Vector3 :=
  (w.map (·.2.sanitized)).getD .zero

/-- A pose is painted by the last writers of its vectors. Induction from the end, where the last
frame is. -/
theorem Snapshot.pose_portray (fs : List (Occupant × Frame)) :
    (portray fs).pose = (Pose.writers fs).map shown := by
  induction fs using List.reverseRecOn with
  | nil => rfl
  | append_singleton fs x ih =>
    -- what was shown is finite, so making it finite again changes nothing
    have hshown : ∀ (v : Option Vector3) (w : Option (Occupant × Vector3)),
        (v.getD (shown w)).sanitized = shown ((v.map (x.1, ·)).or w) := by
      intro v w
      cases v with
      | some a => rfl
      | none =>
        cases w with
        | none => exact Vector3.sanitized_of_isFinite Vector3.isFinite_zero
        | some a => exact Vector3.sanitized_of_isFinite (Vector3.isFinite_sanitized a.2)
    have hp : (portray (fs ++ [x])).pose =
        (x.2.vectors.zipWith Option.getD (portray fs).pose).map Vector3.sanitized := by
      simp [portray, sanitized, apply]
    have hw : Pose.writers (fs ++ [x]) =
        x.2.vectors.zipWith (fun v old => (v.map (x.1, ·)).or old) (Pose.writers fs) := by
      simp [Pose.writers]
    rw [hp, hw, ih]
    simp only [Pose.map, Pose.zipWith, hshown]

namespace Registry

variable {r s : Registry} {p : Plugin} {t : Transcript} {op : Operation} {h : History}
  {directories : PluginDirectories}

/-- The snapshot is painted by the frames that an operation carries on. -/
theorem perform_portray {fs : List (Occupant × Frame)} (hc : r.Consistent)
    (hr : r.snapshot = .portray fs) (h : Yields (op.perform r) t s) :
    s.snapshot = .portray (op.carry t fs) := by
  cases op with
  | rescan dir =>
    obtain ⟨x, rfl, h₁⟩ := yields_map.1 h
    exact (rescan_steps hc h₁).2.2
  | tick =>
    obtain ⟨x, rfl, h₁⟩ := yields_map.1 h
    rcases tick_frames hc h₁ with ⟨-, hz, hstop⟩ | ⟨-, p, f, -, hfr, hgo, hs, -⟩
    · rw [hz, Operation.carry, if_neg (by simp [hstop])]
      rfl
    · simp [Operation.carry, hfr, hgo, hs, hr, Snapshot.portray]
  | _ =>
    rw [(perform_keeps hc rfl h).1, hr]
    rfl

/-- The snapshot is the frames since it was zeroed last, written one over the other. -/
theorem Follows.snapshot_eq (hf : (new directories).Follows h s) :
    s.snapshot = .portray h.frames := by
  induction hf with
  | nil => rfl
  | @snoc h s s' op t hf hp ih =>
    have hfr : History.frames (h ++ [(op, t)]) = op.carry t h.frames := by
      simp [History.frames]
    rw [hfr]
    exact perform_portray (hf.consistent (consistent_new directories)) ih hp

/-! ## Whose frames they are -/

/-- The session of a plugin was ended by an operation that names it. -/
def Ousted (directories : PluginDirectories) (h : History) (who : Occupant) : Prop :=
  ∃ pre op t post r p, h = pre ++ (op, t) :: post ∧ (new directories).Follows pre r ∧
    r.Deposed op ∧ r.providing? = some p ∧ p.who = who

theorem Ousted.snoc {x : Operation × Transcript} {who : Occupant} (h₁ : Ousted directories h who) :
    Ousted directories (h ++ [x]) who := by
  obtain ⟨pre, op, t, post, r, p, rfl, hr, hd, hp, hw⟩ := h₁
  exact ⟨pre, op, t, post ++ [x], r, p, by simp, hr, hd, hp, hw⟩

/-- The provider stays if the operation neither resets nor deposes. -/
theorem perform_provider (hc : r.Consistent) (hop : op.resets = false) (hd : ¬ r.Deposed op)
    (h : Yields (op.perform r) t s) (hp : r.providing? = some p) :
    ∃ q, s.providing? = some q ∧ q.who = p.who := by
  have hcs := (perform_inv hc h).consistent hc
  have htick : op ≠ .tick := by
    rintro rfl
    simp [Operation.resets] at hop
  obtain ⟨hmem, -⟩ := hc.roster.providing?_eq_some.1 hp
  have hprov : s.roster.provider = some p.handle :=
    ((perform_keeps hc hop h).2.2 hd).trans (hc.roster.provider_of_providing? hp)
  obtain ⟨q, hq, hqh⟩ := hcs.roster.present _ hprov
  -- whoever has the handle of the old provider is the old provider
  obtain ⟨o, ho, hw⟩ := (perform_steps htick hc h).known.2 q hq (hqh ▸ hc.bounded p hmem)
  have hoh : o.handle = p.handle := (congrArg Occupant.handle hw).trans hqh
  obtain rfl := hc.roster.eq_of_handle_eq ho hmem hoh
  exact ⟨q, hcs.roster.providing?_eq_some.2 ⟨hq, (hcs.roster.held q hq).2 (hqh ▸ hprov)⟩, hw.symm⟩

/-- A frame in the snapshot is from who provides positional data, or from a plugin whose session was
ended by an operation that names it. -/
theorem Follows.frames_inv (hf : (new directories).Follows h s) {x : Occupant × Frame}
    (hx : x ∈ h.frames) :
    (∃ p, s.providing? = some p ∧ p.who = x.1) ∨ Ousted directories h x.1 := by
  induction hf with
  | nil => simp [History.frames] at hx
  | @snoc h s s' op t hf hp ih =>
    have hc := hf.consistent (consistent_new directories)
    have hfr : History.frames (h ++ [(op, t)]) = op.carry t h.frames := by
      simp [History.frames]
    rw [hfr] at hx
    cases hop : op.resets with
    | false =>
      have hold : op.carry t h.frames = h.frames := by
        cases op <;> first | rfl | simp [Operation.resets] at hop
      rw [hold] at hx
      rcases ih hx with ⟨p, hpr, hw⟩ | hout
      · by_cases hd : s.Deposed op
        · exact .inr ⟨h, op, t, [], s, p, rfl, hf, hd, hpr, hw⟩
        · obtain ⟨q, hq, hqw⟩ := perform_provider hc hop hd hp hpr
          exact .inl ⟨q, hq, hqw.trans hw⟩
      · exact .inr hout.snoc
    | true =>
      cases op with
      | rescan fs => simp [Operation.carry] at hx
      | tick =>
        obtain ⟨y, rfl, h₁⟩ := yields_map.1 hp
        rcases tick_frames hc h₁ with ⟨-, -, hstop⟩ | ⟨-, p, f, hpr, hfrt, hgo, -, hkeep⟩
        · simp [Operation.carry, hstop] at hx
        · have hcarry : Operation.tick.carry t h.frames = h.frames ++ [(p.who, f)] := by
            simp [Operation.carry, hfrt, hgo]
          rw [hcarry] at hx
          rcases List.mem_append.1 hx with hx | hx
          · rcases ih hx with ⟨q, hq, hw⟩ | hout
            · exact .inl ⟨p, hpr, (hkeep q hq).symm.trans hw⟩
            · exact .inr hout.snoc
          · rw [List.mem_singleton.1 hx]
            exact .inl ⟨p, hpr, rfl⟩
      | _ => simp [Operation.resets] at hop

end Registry

end PluginHost
