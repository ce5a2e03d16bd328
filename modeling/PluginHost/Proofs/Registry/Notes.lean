import PluginHost.Proofs.Registry.Tick
import PluginHost.Proofs.Roster.Notes

/-!
# Notes on operations

What an operation puts down in the notes, and that the flags of the plugins keep up with the notes.

* **`load_inv`**, **`unload_inv`**, **`enableFor_inv`**: what becomes of the plugin that is named.
* **`Roster.Chosen.records`**, **`Course.records`**: the notes of a tick.
* **`Started.records`**: the notes of a scan.
* **`Registry.Noted`**: the notes of an operation. Every operation has some (**`exists_noted`**).
* **`Noted.records`**: after an operation every plugin stands where its notes put it.
-/

namespace PluginHost

open Interaction Transcript PermissionEvent Standing

/-! ## One plugin of a roster -/

/-- A plugin that is not loaded is not allowed anything. -/
theorem Plugin.standing_toggled {p : Plugin} {on : Bool} :
    (p.toggled on).standing = p.standing.next (.toggled on) := by
  cases on with
  | false => rfl
  | true =>
    unfold Plugin.toggled Plugin.standing
    cases hl : p.loaded <;> simp [hl, next, says?, loads?]

namespace Roster

variable {r o : Roster} {p : Plugin} {id : PluginId} {t : Transcript}

/-- Where identities are distinct, a plugin is found under its own. -/
theorem byId?_eq_some (hi : (r.plugins.map (·.id)).Nodup) :
    r.byId? id = some p ↔ p ∈ r.plugins ∧ p.id = id := by
  refine ⟨mem_of_byId?, fun ⟨hp, hid⟩ => ?_⟩
  obtain ⟨q, hq⟩ : ∃ q, r.byId? id = some q :=
    Option.isSome_iff_exists.1 (List.find?_isSome.2 ⟨p, hp, by simp [hid]⟩)
  obtain ⟨hmem, hqid⟩ := mem_of_byId? hq
  rw [hq, List.inj_on_of_nodup_map hi hmem hp (hqid.trans hid.symm)]

/-- When the plugin with an identity has been told to stop, it is inactive. -/
theorem releaseIf_inv {x : Bool × Roster} (hc : r.Consistent)
    (hi : (r.plugins.map (·.id)).Nodup) (hp : r.byId? id = some p)
    (h : Yields (r.releaseIf id) t x) :
    x.2.plugins = (r.update { p with active := false }).plugins ∧
      x.2.byId? id = some { p with active := false } := by
  obtain ⟨hmem, hid⟩ := mem_of_byId? hp
  have hplugins : x.2.plugins = (r.update { p with active := false }).plugins := by
    have hidle : p.active = false → r.plugins = (r.update { p with active := false }).plugins := by
      intro ha
      have hsame : { p with active := false } = p := by rw [← ha]
      rw [hsame, hc.update_self hmem]
    unfold releaseIf at h
    -- there is no provider, or it is the plugin in question, or it is another one
    split at h
    · rename_i hnone
      obtain ⟨rfl, rfl⟩ := yields_done.1 h
      have hactive := hc.held p hmem
      rw [hc.provider_eq_none hnone] at hactive
      exact hidle (by simpa using hactive)
    · rename_i p' hsome
      obtain ⟨hmem', ha'⟩ := hc.providing?_eq_some.1 hsome
      split at h
      · rename_i hid'
        obtain ⟨_, _, o, rfl, h₁, h₂⟩ := yields_bind.1 h
        obtain ⟨rfl, rfl⟩ := yields_done.1 h₂
        obtain ⟨-, rfl⟩ := release_inv hsome h₁
        rw [List.inj_on_of_nodup_map hi hmem' hmem (hid'.trans hid.symm)]
      · rename_i hid'
        obtain ⟨rfl, rfl⟩ := yields_done.1 h
        refine hidle (Bool.eq_false_iff.2 fun ha => hid' ?_)
        have hprov := hc.providing?_eq_some.2 ⟨hmem, ha⟩
        rwa [Option.some.inj (hsome.symm.trans hprov)]
  have hids : (x.2.plugins.map (·.id)).Nodup := by
    rw [hplugins, map_update (q := { p with active := false }) (f := (·.id)) hc hmem rfl rfl]
    exact hi
  refine ⟨hplugins, (byId?_eq_some hids).2 ⟨?_, hid⟩⟩
  rw [hplugins]
  exact mem_update.2 (.inr ⟨rfl, p, hmem, rfl⟩)

end Roster

namespace Registry

variable {r s : Registry} {p : Plugin} {id : PluginId} {t : Transcript}

/-- Loading activates the plugin that has the identity. -/
theorem load_inv {x : Except PluginError Status × Registry} (hc : r.Consistent)
    (hp : r.byId? id = some p) (h : Yields (r.load id) t x) :
    ∃ q, p.Activated r.positionalDefault t (x.1, q) ∧ x.2 = r.update q := by
  obtain ⟨hmem, -⟩ := Roster.mem_of_byId? hp
  unfold load at h
  rw [hp] at h
  obtain ⟨_, _, y, rfl, h₁, h₂⟩ := yields_bind.1 h
  obtain ⟨rfl, rfl⟩ := yields_done.1 h₂
  rw [List.append_nil]
  exact ⟨y.2, Plugin.activate_inv (hc.roster.sound p hmem) h₁, rfl⟩

/-- All flags of a plugin that is unloaded go down. -/
theorem unload_inv {x : Except PluginError Unit × Registry} (hc : r.Consistent)
    (hi : (r.plugins.map (·.id)).Nodup) (hp : r.byId? id = some p) (h : Yields (r.unload id) t x) :
    x.2.plugins = (r.roster.update p.asleep).plugins := by
  obtain ⟨hmem, -⟩ := Roster.mem_of_byId? hp
  unfold unload at h
  rw [hp] at h
  obtain ⟨_, _, ⟨released, o⟩, rfl, h₁, h₂⟩ := yields_bind.1 h
  obtain ⟨hplugins, hfind⟩ := Roster.releaseIf_inv hc.roster hi hp h₁
  dsimp only at hplugins hfind h₂
  rw [hfind] at h₂
  obtain ⟨_, _, q, rfl, h₃, h₄⟩ := yields_bind.1 h₂
  obtain ⟨rfl, rfl⟩ := yields_done.1 h₄
  obtain ⟨-, rfl⟩ := Plugin.shutdown_inv (hc.roster.sound p hmem).deactivated h₃
  have htwice := Roster.update_update (r := r.roster) (p := { p with active := false })
    (q := p.asleep) rfl
  rw [← htwice]
  exact congrArg (List.map _) hplugins

/-- Switching positional data on or off sets the permission of the plugin, whoever provides. -/
theorem enableFor_inv {on : Bool} (hc : r.Consistent) (hi : (r.plugins.map (·.id)).Nodup)
    (hp : r.byId? id = some p) (h : Yields (r.enableFor id on) t s) :
    s.plugins = (r.roster.update (p.toggled on)).plugins := by
  unfold enableFor at h
  rw [hp] at h
  cases on with
  | true =>
    simp only [if_true, pure_eq_done, bind_eq, done_bind] at h
    rw [show r.roster.byId? id = some p from hp] at h
    obtain ⟨_, _, q, rfl, h₁, h₂⟩ := yields_bind.1 h
    obtain ⟨rfl, rfl⟩ := yields_done.1 h₂
    obtain ⟨-, rfl⟩ := Plugin.enable_true_inv h₁
    rfl
  | false =>
    obtain ⟨_, _, o, rfl, h₁, h₂⟩ := yields_bind.1 h
    obtain ⟨x, rfl, h₃⟩ := yields_map.1 h₁
    obtain ⟨hplugins, hfind⟩ := Roster.releaseIf_inv hc.roster hi hp h₃
    dsimp only at h₂
    rw [hfind] at h₂
    obtain ⟨_, _, q, rfl, h₄, h₅⟩ := yields_bind.1 h₂
    obtain ⟨rfl, rfl⟩ := yields_done.1 h₅
    obtain ⟨-, rfl⟩ := Plugin.enable_false_inv h₄
    have htwice := Roster.update_update (r := r.roster) (p := { p with active := false })
      (q := p.toggled false) rfl
    rw [← htwice]
    exact congrArg (List.map _) hplugins

end Registry

/-! ## Ticks -/

namespace Roster

variable {r o : Roster} {t : Transcript} {as : List Answer} {P : Option Plugin} {notes : List Note}

/-- What comes of a round is what the offers say. -/
theorem Chosen.records (h : r.Chosen t as P o) (hc : r.Consistent) (hr : r.Records notes) :
    o.Records (notes ++ offerNotes as) := by
  cases h with
  | held p hp => simpa [offerNotes] using hr
  | sought t as hn h =>
    exact hr.settle (fits_of_sought hc.distinct (.refl _) h) fun a ha => (h.mem ha).2

/-- Only eligible plugins of the roster answer. -/
theorem Chosen.eligible (h : r.Chosen t as P o) :
    ∀ a ∈ as, a.1 ∈ r.plugins ∧ isEligible a.1 = true := by
  cases h with
  | held p hp => simp
  | sought t as hn h => exact fun a ha => h.mem ha

end Roster

namespace Registry

variable {r s : Registry} {t : Transcript} {as : List Answer} {notes : List Note}
  {x : Bool × Registry}

/-- The same for a tick. What happens to the provider besides does not concern its permission. -/
theorem Course.records (h : r.Course t as x) (hc : r.Consistent)
    (hr : r.roster.Records notes) : x.2.roster.Records (notes ++ offerNotes as) := by
  cases h with
  | idle t as o h => exact h.records hc.roster hr
  | fresh t as o p e f c h ho hf hgo hcoh =>
    refine (h.records hc.roster hr).update (h.mem hc.roster ho) (by simp) ?_
    simp [Plugin.standing]
  | stopped t u v as bs o p q snapshot h ho hf hs =>
    have hmem := h.mem hc.roster ho
    have hhandle : q.handle = p.handle := hf.keeps (·.handle) fun _ => by simp
    have hflags : q.standing = p.standing :=
      hf.keeps Plugin.standing fun _ => by simp [Plugin.standing]
    -- the end of the session is no event
    have hover : (o.deposed q).Records (notes ++ offerNotes as) :=
      ((h.records hc.roster hr).update (q := { q with active := false })
        hmem hhandle hflags).congr rfl
    rw [offerNotes_append, ← List.append_assoc]
    exact hover.settle (Roster.fits_of_sought (Roster.nodup_deposed ho) (List.filter_sublist ..) hs)
      fun a ha => (hs.mem ha).2

/-- Only plugins of the registry answer. -/
theorem Course.known (h : r.Course t as x) (hc : r.Consistent) :
    ∀ a ∈ as, ∃ p ∈ r.plugins, p.handle = a.1.handle := by
  cases h with
  | idle t as o h => exact fun a ha => ⟨a.1, (h.eligible a ha).1, rfl⟩
  | fresh t as o p e f c h ho hf hgo hcoh => exact fun a ha => ⟨a.1, (h.eligible a ha).1, rfl⟩
  | stopped t u v as bs o p q snapshot h ho hf hs =>
    intro a ha
    rcases List.mem_append.1 ha with ha | ha
    · exact ⟨a.1, (h.eligible a ha).1, rfl⟩
    · have hhandles : (o.deposed q).plugins.map (·.handle) = r.plugins.map (·.handle) := by
        have hupdate : (o.deposed q).plugins.map (·.handle) = o.plugins.map (·.handle) :=
          Roster.handles_update o { q with active := false }
        rw [hupdate, h.plugins_eq hc.roster, List.map_map]
        exact List.map_congr_left fun _ _ => Plugin.handle_settled
      have hmem := (List.mem_filter.1 (hs.mem ha).1).1
      exact List.mem_map.1 (hhandles ▸ List.mem_map_of_mem hmem)

/-! ## Scans -/

section

variable {cs : List (Source × List Generation)} {l l' : Ledger} {os : List (Option Plugin)}

/-- A scan gives out increasing handles. -/
theorem Scanned.handles_lt (h : Scanned cs l t os l') :
    os.reduceOption.Pairwise fun p q => p.handle < q.handle := by
  induction h with
  | nil => exact .nil
  | @cons _ _ _ _ _ _ _ o os h hr ih =>
    rw [reduceOption_cons]
    cases o with
    | none => exact ih
    | some p =>
      exact .cons (fun q hq => Nat.lt_of_lt_of_le h.found.handle_lt (hr.found q hq).handle_le) ih

/-- Whoever was found makes up a roster without a provider. -/
theorem Scanned.consistent (h : Scanned cs l t os l') :
    Roster.Consistent ⟨os.reduceOption, none⟩ where
  sound p hp := (h.born p hp).1
  distinct := (List.pairwise_map.2 h.handles_lt).imp Nat.ne_of_lt
  held p hp := by
    obtain ⟨hs, hl⟩ := h.born p hp
    simp [(hs.flags_of_unloaded hl).2]
  present n hn := by simp at hn

/-- Nothing was noted on whoever was found, and nothing has happened to them. -/
theorem Scanned.records {next : Nat} (h : Scanned cs l t os l') (hl : next ≤ l.nextHandle)
    (hn : ∀ e ∈ notes, e.1 < next) (hlaw : ∀ n, Lawful (eventsOf n notes)) :
    Roster.Records ⟨os.reduceOption, none⟩ notes := by
  refine ⟨fun p hp => ?_, hlaw⟩
  obtain ⟨hs, hload⟩ := h.born p hp
  obtain ⟨hen, -⟩ := hs.flags_of_unloaded hload
  have hlow := (h.found p hp).handle_le
  have hnone : eventsOf p.handle notes = [] := eventsOf_eq_nil fun e he => by
    have := hn e he
    omega
  rw [hnone, Plugin.standing, hload, hen]
  rfl

/-- The notes of plugins that are started one after the other. -/
def startedNotes (allowed : Bool) (xs : List (Except PluginError Status × Plugin)) : List Note :=
  xs.flatMap fun x => startNotes x.2.handle allowed x.1

/-- What comes of activating plugins in turn is what their starts say. -/
theorem Started.records {allowed : Bool} {d ps : List Plugin} {n : Option Nat}
    {xs : List (Except PluginError Status × Plugin)} (h : Started allowed ps t xs)
    (hc : Roster.Consistent ⟨d ++ ps, n⟩) (hl : ∀ p ∈ ps, p.loaded = false)
    (hr : Roster.Records ⟨d ++ ps, n⟩ notes) :
    Roster.Records ⟨d ++ xs.map (·.2), n⟩ (notes ++ startedNotes allowed xs) := by
  induction h generalizing d notes with
  | nil => simpa [startedNotes] using hr
  | @cons p ps t u x xs hx hrest ih =>
    obtain ⟨hload, hl'⟩ := List.forall_mem_cons.1 hl
    have hp : p ∈ (Roster.mk (d ++ p :: ps) n).plugins := by simp
    have hmiddle := update_middle hc rfl hx.handle_eq
    have hc' := (activated_steps hc hp hx).consistent hc
    have hr' := hr.activate hp (hc.sound p hp) hx
    rw [hmiddle] at hc' hr'
    rw [if_neg (by simp [hload]), ← hx.handle_eq] at hr'
    -- the plugin that was started joins those that are done
    have hlater := ih (d := d ++ [x.2]) (by simpa using hc') hl' (by simpa using hr')
    simpa [startedNotes] using hlater

end

/-! ## Operations -/

end Registry

/-- The plugin that an operation names. -/
def Operation.target? : Operation → Option PluginId
  | load id | unload id | enableFor id _ => some id
  | _ => none

namespace Registry

variable {r s : Registry} {op : Operation} {t : Transcript} {notes more : List Note}

/-- What an operation puts down in the notes. -/
inductive Noted (r : Registry) (t : Transcript) (s : Registry) : Operation → List Note → Prop
  | rescan {fs : FileSystem} {t₁ t₂ t₃ : Transcript} {l : Ledger} {os : List (Option Plugin)}
      {xs : List (Except PluginError Status × Plugin)} (ht : t = r.clearing ++ (t₁ ++ (t₂ ++ t₃)))
      (hscan : Scanned (libraryCandidates fs r ++ builtInCandidates r) r.ledger t₁ os l)
      (hstart : Started r.positionalDefault os.reduceOption t₂ xs)
      (hs : s = { r with
        ledger := l, roster := ⟨latest (xs.map (·.2)), none⟩, snapshot := .zeroed }) :
      Noted r t s (.rescan fs) (startedNotes r.positionalDefault xs)
  /-- A plugin that is loaded already is not started again. -/
  | load {id : PluginId} {p : Plugin} {result : Except PluginError Status}
      (hp : r.byId? id = some p) (h : Yields (load r id) t (result, s)) :
      Noted r t s (.load id)
        (if p.loaded then [] else startNotes p.handle r.positionalDefault result)
  | unload {id : PluginId} {p : Plugin} (hp : r.byId? id = some p) :
      Noted r t s (.unload id) [(p.handle, .unloaded)]
  | enableFor {id : PluginId} {on : Bool} {p : Plugin} (hp : r.byId? id = some p) :
      Noted r t s (.enableFor id on) [(p.handle, .toggled on)]
  | tick {as : List Answer} {fresh : Bool} (h : r.Course t as (fresh, s)) :
      Noted r t s .tick (offerNotes as)
  | unknown {op : Operation} {id : PluginId} (hop : op.target? = some id)
      (hp : r.byId? id = none) : Noted r t s op []
  | other {op : Operation} (hop : op.target? = none) (hr : ∀ fs, op ≠ .rescan fs)
      (ht : op ≠ .tick) : Noted r t s op []

/-- Every operation is described by notes. -/
theorem exists_noted (hc : r.Consistent) (h : Yields (op.perform r) t s) :
    ∃ more, r.Noted t s op more := by
  cases op with
  | rescan fs =>
    obtain ⟨x, rfl, h₁⟩ := yields_map.1 h
    obtain ⟨t₁, t₂, t₃, l, os, xs, ht, hscan, hstart, -, rfl⟩ := rescan_course hc h₁
    exact ⟨_, .rescan ht hscan hstart rfl⟩
  | load id =>
    obtain ⟨x, rfl, h₁⟩ := yields_map.1 h
    cases hp : r.byId? id with
    | none => exact ⟨_, .unknown rfl hp⟩
    | some p => exact ⟨_, .load hp h₁⟩
  | unload id =>
    cases hp : r.byId? id with
    | none => exact ⟨_, .unknown rfl hp⟩
    | some p => exact ⟨_, .unload hp⟩
  | enableFor id on =>
    cases hp : r.byId? id with
    | none => exact ⟨_, .unknown rfl hp⟩
    | some p => exact ⟨_, .enableFor hp⟩
  | tick =>
    obtain ⟨x, rfl, h₁⟩ := yields_map.1 h
    obtain ⟨as, hcourse⟩ := tick_course hc h₁
    exact ⟨_, .tick hcourse⟩
  | _ => exact ⟨_, .other rfl (by simp) (by simp)⟩

/-- An operation on a plugin that is not registered does nothing. -/
theorem perform_unknown {id : PluginId} (hop : op.target? = some id) (hp : r.byId? id = none)
    (h : Yields (op.perform r) t s) : s = r := by
  cases op with
  | load id' =>
    obtain rfl := Option.some.inj hop
    obtain ⟨x, rfl, h₁⟩ := yields_map.1 h
    unfold load at h₁
    rw [hp] at h₁
    rw [(yields_done.1 h₁).2]
  | unload id' =>
    obtain rfl := Option.some.inj hop
    obtain ⟨x, rfl, h₁⟩ := yields_map.1 h
    unfold unload at h₁
    rw [hp] at h₁
    rw [(yields_done.1 h₁).2]
  | enableFor id' on =>
    obtain rfl := Option.some.inj hop
    change Yields (r.enableFor id' on) t s at h
    unfold enableFor at h
    rw [hp] at h
    exact (yields_done.1 h).2
  | _ => simp [Operation.target?] at hop

/-- An operation that names no plugin, besides a scan and a tick, changes no plugin. -/
theorem perform_other (hop : op.target? = none) (hr : ∀ fs, op ≠ .rescan fs) (ht : op ≠ .tick)
    (h : Yields (op.perform r) t s) : s.roster = r.roster := by
  cases op with
  | rescan fs => exact absurd rfl (hr fs)
  | tick => exact absurd rfl ht
  | load | unload | enableFor => simp [Operation.target?] at hop
  | allowByDefault | registerBuiltIn =>
    obtain ⟨-, rfl⟩ := yields_done.1 h
    rfl
  | _ =>
    obtain ⟨_, rfl, -⟩ := yields_map.1 h
    rfl

/-- The plugins stand where the notes say, and no note is on a plugin that is still to come. -/
structure Records (r : Registry) (notes : List Note) : Prop where
  roster : r.roster.Records notes
  bounded : ∀ e ∈ notes, e.1 < r.ledger.nextHandle

theorem records_new (directories : PluginDirectories) : (new directories).Records [] :=
  ⟨⟨by simp [new], fun _ => lawful_nil⟩, by simp⟩

/-- Of a start it is noted that it succeeded or failed, and of whom. -/
theorem mem_startNotes {n : Nat} {allowed : Bool} {result : Except PluginError Status} {e : Note}
    (h : e ∈ startNotes n allowed result) : e.1 = n ∧ (e.2 = .started allowed ∨ e.2 = .failed) := by
  unfold startNotes at h
  split at h
  · rw [List.mem_singleton.1 h]
    split
    · exact ⟨rfl, .inl rfl⟩
    · exact ⟨rfl, .inr rfl⟩
  · simp at h

/-- An operation that uses no source notes something on registered plugins only. -/
theorem Noted.known (hn : r.Noted t s op more) (hc : r.Consistent) (hop : ∀ fs, op ≠ .rescan fs) :
    ∀ e ∈ more, ∃ p ∈ r.plugins, p.handle = e.1 := by
  cases hn with
  | rescan => exact absurd rfl (hop _)
  | load hp h =>
    intro e he
    split at he
    · simp at he
    · exact ⟨_, (Roster.mem_of_byId? hp).1, (mem_startNotes he).1.symm⟩
  | unload hp | enableFor hp =>
    intro e he
    rw [List.mem_singleton.1 he]
    exact ⟨_, (Roster.mem_of_byId? hp).1, rfl⟩
  | tick h =>
    intro e he
    obtain ⟨a, ha, rfl⟩ := List.mem_map.1 he
    exact h.known hc a ha
  | unknown | other => simp

/-- What an operation does to the plugins is what it puts down in the notes. -/
theorem Noted.records (hn : r.Noted t s op more) (hc : r.Consistent)
    (hi : (r.plugins.map (·.id)).Nodup) (hp : Yields (op.perform r) t s) (hr : r.Records notes) :
    s.Records (notes ++ more) := by
  by_cases hop : ∀ fs, op ≠ .rescan fs
  · refine ⟨?_, fun e he => ?_⟩
    · cases hn with
      | rescan => exact absurd rfl (hop _)
      | load hid h =>
        obtain ⟨hmem, -⟩ := Roster.mem_of_byId? hid
        obtain ⟨q, hact, rfl⟩ := load_inv hc hid h
        exact hr.roster.activate hmem (hc.roster.sound _ hmem) hact
      | @unload _ p hid =>
        obtain ⟨hmem, -⟩ := Roster.mem_of_byId? hid
        obtain ⟨x, rfl, h₁⟩ := yields_map.1 hp
        have hdown := hr.roster.note (q := p.asleep) (e := .unloaded) hmem rfl trivial rfl
        exact hdown.congr (unload_inv hc hi hid h₁)
      | enableFor hid =>
        obtain ⟨hmem, -⟩ := Roster.mem_of_byId? hid
        exact (hr.roster.note (e := .toggled _) hmem Plugin.handle_toggled trivial
          Plugin.standing_toggled).congr (enableFor_inv hc hi hid hp)
      | tick h => exact h.records hc hr.roster
      | unknown htarget hid =>
        rw [perform_unknown htarget hid hp, List.append_nil]
        exact hr.roster
      | other htarget hrescan htick =>
        rw [perform_other htarget hrescan htick hp, List.append_nil]
        exact hr.roster
    · rw [perform_ledger hop hp]
      rcases List.mem_append.1 he with he | he
      · exact hr.bounded e he
      · obtain ⟨p, hmem, hh⟩ := hn.known hc hop e he
        exact hh ▸ hc.bounded p hmem
  · simp only [ne_eq, not_forall, not_not] at hop
    obtain ⟨fs, rfl⟩ := hop
    cases hn with
    | unknown htarget => simp [Operation.target?] at htarget
    | other _ hrescan => exact absurd rfl (hrescan fs)
    | @rescan _ _ _ _ l os xs ht hscan hstart hs =>
      subst hs
      -- nothing had been noted on whoever was found, because their handles are new
      have hspent := hscan.spent.handle_le
      have hfound := hstart.records (d := []) hscan.consistent
        (fun p hmem => (hscan.born p hmem).2)
        (hscan.records (Nat.le_refl _) hr.bounded hr.roster.lawful)
      refine ⟨⟨fun p hmem => ?_, hfound.lawful⟩, fun e he => ?_⟩
      · exact hfound.standing p ((latest_sublist _).subset hmem)
      · rcases List.mem_append.1 he with he | he
        · exact Nat.lt_of_lt_of_le (hr.bounded e he) hspent
        · obtain ⟨x, hx, he⟩ := List.mem_flatMap.1 he
          obtain ⟨p, hmem, -, hw, -⟩ := hstart.exists_found (List.mem_map_of_mem hx)
          have hh : x.2.handle = p.handle := congrArg Occupant.handle hw
          rw [(mem_startNotes he).1, hh]
          exact (hscan.found p hmem).handle_lt

end Registry

end PluginHost
