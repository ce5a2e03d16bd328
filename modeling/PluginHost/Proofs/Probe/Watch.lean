import PluginHost.Probe.Watch
import PluginHost.Proofs.Registry.Finite
import PluginHost.Proofs.Registry.Purpose

/-!
# A watch reports the changes

A watch compares what a tick leaves behind with what it reported last, and forgets the pose while no
fresh data comes in. What it writes are the differences between one tick and the next.

* **`Snapshot.same_symm`**, **`Snapshot.same_trans`**: numerical equality goes both ways and passes
  on. A snapshot equals itself only if it is finite.
* **`WatchEvent.texts`**: what is written for an event, word by word and member by member.
* **`Turn`**: one tick of a watch. **`Turn.Exact`**: it reports what differs from the turn before
  and nothing else.
* **`Seen.Recalls`**: what was reported last goes with the turn before, up to numerical equality.
* **`Watched`**: turns one after the other, with everything that is asked and written in them.
* **`Replays`**: events from which provider and pose can be told.
* **`Probe.watch_reports_changes`**: a watch whose writes succeed.
-/

namespace PluginHost

open Interaction Transcript

/-! ## Numerical equality -/

theorem Binary32.eq_symm {a b : Binary32} (h : a.eq b = true) : b.eq a = true := by
  simp only [eq, Bool.and_eq_true, Bool.or_eq_true, beq_iff_eq] at h ⊢
  exact ⟨h.1.symm, h.2.imp Eq.symm And.symm⟩

/-- Zeros have the same bits but for the sign, so what equals a zero is one. -/
theorem Binary32.eq_trans {a b c : Binary32} (h : a.eq b = true) (h' : b.eq c = true) :
    a.eq c = true := by
  simp only [eq, unsignedBits, Bool.and_eq_true, Bool.or_eq_true, beq_iff_eq] at h h' ⊢
  refine ⟨⟨h.1.1, h'.1.2⟩, ?_⟩
  rcases h.2 with hab | ⟨ha, hb⟩
  · rw [hab]
    exact h'.2
  rcases h'.2 with hbc | ⟨-, hc⟩
  · exact .inr ⟨ha, hbc ▸ hb⟩
  · exact .inr ⟨ha, hc⟩

namespace Vector3

variable {a b c : Vector3}

theorem eq_symm (h : a.eq b = true) : b.eq a = true := by
  simp only [eq, Bool.and_eq_true] at h ⊢
  exact ⟨⟨Binary32.eq_symm h.1.1, Binary32.eq_symm h.1.2⟩, Binary32.eq_symm h.2⟩

/-- Equality of vectors is transitive. -/
theorem eq_trans (h : a.eq b = true) (h' : b.eq c = true) : a.eq c = true := by
  simp only [eq, Bool.and_eq_true] at h h' ⊢
  exact ⟨⟨Binary32.eq_trans h.1.1 h'.1.1, Binary32.eq_trans h.1.2 h'.1.2⟩,
    Binary32.eq_trans h.2 h'.2⟩

theorem forall₂_eq_trans {us vs ws : List Vector3}
    (h : List.Forall₂ (fun v w => v.eq w = true) us vs)
    (h' : List.Forall₂ (fun v w => v.eq w = true) vs ws) :
    List.Forall₂ (fun v w => v.eq w = true) us ws := by
  induction h generalizing ws with
  | nil => exact h'
  | cons huv _ ih =>
    cases h' with
    | cons hvw h' => exact .cons (eq_trans huv hvw) (ih h')

end Vector3

namespace Snapshot

variable {a b c : Snapshot}

/-- Snapshots are the same if their vectors are equal as numbers and their texts are. -/
theorem same_iff : a.same b = true ↔
    List.Forall₂ (fun v w => v.eq w = true) a.pose.toList b.pose.toList ∧ a.context = b.context ∧
      a.identity = b.identity := by
  simp [same, Pose.zipWith, Pose.toList, and_assoc]

theorem same_symm (h : a.same b = true) : b.same a = true := by
  obtain ⟨hpose, hcontext, hidentity⟩ := same_iff.1 h
  exact same_iff.2 ⟨(hpose.imp fun _ _ => Vector3.eq_symm).flip, hcontext.symm, hidentity.symm⟩

theorem same_trans (h : a.same b = true) (h' : b.same c = true) : a.same c = true := by
  obtain ⟨hpose, hcontext, hidentity⟩ := same_iff.1 h
  obtain ⟨hpose', hcontext', hidentity'⟩ := same_iff.1 h'
  exact same_iff.2 ⟨Vector3.forall₂_eq_trans hpose hpose', hcontext.trans hcontext',
    hidentity.trans hidentity'⟩

end Snapshot

/-! ## Texts that are written -/

namespace Transcript

/-- The text of a write. -/
def writtenBy (e : Exchange) : Option String :=
  match e.query with
  | .write text => some text
  | _ => none

/-- The texts that were to be written, in their order. -/
def written (t : Transcript) : List String := t.filterMap writtenBy

variable {t u : Transcript}

@[simp] theorem written_append : (t ++ u).written = t.written ++ u.written := List.filterMap_append

/-- What serves a purpose with plugins writes nothing. -/
theorem written_of_asks {α : Type} {ps : List Purpose} {x : Interaction α} {a : α} (h : Asks ps x)
    (hx : Yields x t a) : t.written = [] := by
  refine List.filterMap_eq_nil_iff.2 fun e he => ?_
  have hserves := h t a hx e he
  unfold writtenBy
  cases hq : e.query with
  | write text =>
    rw [hq] at hserves
    cases hserves
  | _ => rfl

/-- No write failed. -/
def Written (t : Transcript) : Prop := ∀ text reason, ⟨.write text, .error reason⟩ ∉ t

theorem Written.left (h : Written (t ++ u)) : t.Written := fun text reason he =>
  h text reason (List.mem_append_left u he)

theorem Written.right (h : Written (t ++ u)) : u.Written := fun text reason he =>
  h text reason (List.mem_append_right t he)

/-- Plugins aside, all goes well if no write ever fails. -/
theorem written_record {α : Type} {answer : (q : Query) → q.Reply}
    (h : ∀ text, answer (.write text) = .ok ()) (x : Interaction α) :
    (x.record answer).1.Written := by
  induction x with
  | done a => exact fun text reason he => by cases he
  | ask q next ih =>
    intro text reason he
    rcases List.mem_cons.1 he with he | he
    · obtain ⟨rfl, hreply⟩ := Exchange.mk.inj he
      cases (eq_of_heq hreply).trans (h text)
    · exact ih (answer q) text reason he

end Transcript

/-- Members of an object are written with their names, one after the other. -/
theorem Json.compactMembers_eq (ms : List (String × Json)) :
    compactMembers ms = ms.map fun m => quote m.1 ++ ":" ++ m.2.compact := by
  induction ms with
  | nil => rfl
  | cons m ms ih => rw [compactMembers, ih, List.map_cons]

namespace Probe

variable {format : OutputFormat} {interval tick : Nat} {t : Transcript} {r s : Registry}

/-! ### What an event looks like -/

/-- An object on one line, from the names of its members and the texts of their values. -/
def objectText (members : List (String × String)) : String :=
  "\x7b" ++ ",".intercalate (members.map fun m => "\"" ++ m.1 ++ "\":" ++ m.2) ++ "\x7d"

/-- A component as machines read it: the shortest text of the number, or null if it is none. -/
def componentText (c : Binary32) : String := if c.isFinite then c.shortest else "null"

/-- A vector as machines read it. -/
def vectorObject (v : Vector3) : String :=
  objectText [("x", componentText v.x), ("y", componentText v.y), ("z", componentText v.z)]

/-- A snapshot as machines read it: the six vectors and the two texts, each under its own name. -/
def snapshotObject (s : Snapshot) : String := objectText [
  ("avatar_position", vectorObject s.pose.avatarPosition),
  ("avatar_front", vectorObject s.pose.avatarFront),
  ("avatar_top", vectorObject s.pose.avatarTop),
  ("camera_position", vectorObject s.pose.cameraPosition),
  ("camera_front", vectorObject s.pose.cameraFront),
  ("camera_top", vectorObject s.pose.cameraTop),
  ("context", Json.quote s.context),
  ("identity", Json.quote s.identity)]

/-- A vector as people read it, with two decimals. -/
def vectorWords (v : Vector3) : String :=
  "(" ++ v.x.fixed 2 ++ ", " ++ v.y.fixed 2 ++ ", " ++ v.z.fixed 2 ++ ")"

/-- The texts of an event. People get a line in words with the avatar and the camera; machines get
an object with all that the event carries, and the end of its line. -/
def WatchEvent.texts : OutputFormat → WatchEvent → List String
  | .human, provider tick none => ["tick " ++ toString tick ++ ": no positional data provider\n"]
  | .human, provider tick (some (id, name)) =>
    ["tick " ++ toString tick ++ ": positional data from plugin " ++ toString id.toNat ++ " (" ++
      name ++ ")\n"]
  | .human, pose tick s =>
    ["tick " ++ toString tick ++ ": avatar " ++ vectorWords s.pose.avatarPosition ++ " camera " ++
      vectorWords s.pose.cameraPosition ++ " context '" ++ s.context ++ "' identity '" ++
      s.identity ++ "'\n"]
  | .json, provider tick none =>
    [objectText [("event", "\"provider\""), ("tick", toString tick), ("plugin_id", "null"),
      ("name", "null")], "\n"]
  | .json, provider tick (some (id, name)) =>
    [objectText [("event", "\"provider\""), ("tick", toString tick),
      ("plugin_id", toString id.toNat), ("name", Json.quote name)], "\n"]
  | .json, pose tick s =>
    [objectText [("event", "\"pose\""), ("tick", toString tick), ("data", snapshotObject s)], "\n"]

/-- The names of members stand in quotes as they are if nothing in them is escaped. -/
theorem compact_object {ms : List (String × Json)}
    (h : ∀ m ∈ ms, Json.quote m.1 = "\"" ++ m.1 ++ "\"") :
    (Json.object ms).compact = objectText (ms.map fun m => (m.1, m.2.compact)) := by
  have hmembers : Json.compactMembers ms =
      (ms.map fun m => (m.1, m.2.compact)).map fun m => "\"" ++ m.1 ++ "\":" ++ m.2 := by
    rw [Json.compactMembers_eq, List.map_map]
    refine List.map_congr_left fun m hm => ?_
    have hquote : "\":" = "\"" ++ ":" := rfl
    rw [h m hm, Function.comp_apply, hquote]
    simp only [String.append_assoc]
  rw [Json.compact, hmembers, objectText]

/-- A component is written as a number, or as nothing if it is not finite. -/
theorem compact_componentJson (c : Binary32) :
    (Vector3.componentJson c).compact = componentText c := by
  unfold Vector3.componentJson componentText
  split <;> rfl

/-- A vector is written as an object with its components. -/
theorem compact_vector (v : Vector3) : v.toJson.compact = vectorObject v := by
  rw [Vector3.toJson, compact_object (by simp only [List.forall_mem_cons]; decide)]
  simp only [List.map_cons, List.map_nil, compact_componentJson, vectorObject]

/-- A snapshot is written as an object with its vectors and texts. -/
theorem compact_snapshot (s : Snapshot) : s.toJson.compact = snapshotObject s := by
  rw [Snapshot.toJson, compact_object (by simp only [List.forall_mem_cons]; decide)]
  simp only [List.map_cons, List.map_nil, compact_vector, Json.compact, snapshotObject]

/-- The members of an event are written as they should look. -/
theorem WatchEvent.texts_json (e : WatchEvent) : e.texts .json = [e.toJson.compact, "\n"] := by
  have hprovider : Json.quote "provider" = "\"provider\"" := by decide
  have hpose : Json.quote "pose" = "\"pose\"" := by decide
  cases e with
  | provider tick who =>
    rw [toJson, compact_object (by simp only [List.forall_mem_cons]; decide)]
    cases who <;>
      simp only [List.map_cons, List.map_nil, Json.compact, Json.option, hprovider] <;> rfl
  | pose tick data =>
    rw [toJson, compact_object (by simp only [List.forall_mem_cons]; decide)]
    simp only [List.map_cons, List.map_nil, compact_snapshot, Json.compact, hpose]
    rfl

/-- The line that is written for an event says what it should. -/
theorem WatchEvent.texts_human (e : WatchEvent) : e.texts .human = [e.line ++ "\n"] := by
  cases e with
  | provider tick who =>
    cases who <;> simp only [texts, line, String.append_assoc] <;> rfl
  | pose tick data => simp only [texts, line, String.append_assoc]; rfl

/-- If writing succeeds, the text is in the output. -/
theorem write_inv {text : String} {y : Except String Unit} (h : Yields (query (.write text)) t y)
    (ht : t.Written) : y = .ok () ∧ t.written = [text] := by
  obtain rfl := yields_query.1 h
  cases y with
  | error reason => exact absurd (List.mem_singleton_self _) (ht text reason)
  | ok _ => exact ⟨rfl, rfl⟩

/-- Lines are written one after the other, each with a line break. -/
theorem writeLines_inv {lines : List String} {y : Except OutputError Unit}
    (h : Yields (writeLines lines) t y) (ht : t.Written) :
    y = .ok () ∧ t.written = lines.map (· ++ "\n") := by
  induction lines generalizing t with
  | nil =>
    obtain ⟨rfl, rfl⟩ := yields_done.1 h
    exact ⟨rfl, rfl⟩
  | cons line lines ih =>
    obtain ⟨u, v, z, rfl, h₁, h₂⟩ := yields_bind.1 h
    obtain ⟨rfl, hu⟩ := write_inv h₁ ht.left
    obtain ⟨hy, hv⟩ := ih h₂ ht.right
    exact ⟨hy, by rw [written_append, hu, hv]; rfl⟩

/-- An event is written as the lines that tell it. -/
theorem WatchEvent.write_inv {e : WatchEvent} {y : Except OutputError Unit}
    (h : Yields (e.write format) t y) (ht : t.Written) :
    y = .ok () ∧ t.written = e.texts format := by
  cases format with
  | human =>
    rw [texts_human]
    exact writeLines_inv h ht
  | json =>
    obtain ⟨u, v, z, rfl, h₁, h₂⟩ := yields_bind.1 h
    obtain ⟨rfl, hu⟩ := Probe.write_inv h₁ ht.left
    obtain ⟨hy, hv⟩ := writeLines_inv h₂ ht.right
    exact ⟨hy, by rw [written_append, hu, hv, texts_json]; rfl⟩

/-! ## One turn -/

/-- One tick of a watch: whether it brought fresh data, the registry that it left, what was asked in
it and after it, and what it was reported. -/
structure Turn where
  fresh : Bool
  left : Registry
  ticking : Transcript
  reporting : Transcript
  events : List WatchEvent

variable {previous : Option Turn} {x : Turn} {xs : List Turn}

namespace Turn

/-- Who provides positional data after the tick. -/
def provider (x : Turn) : Option PluginId := x.left.providing?.map (·.id)

/-- There is no turn before, or it had another provider. -/
def isNewProvider (x : Turn) (previous : Option Turn) : Bool :=
  previous.all fun y => x.provider != y.provider

/-- The data is fresh, and there is no turn before, or it had no fresh data, or another pose as
numbers go. -/
def isNewPose (x : Turn) (previous : Option Turn) : Bool :=
  x.fresh && previous.all fun y => !y.fresh || !x.left.snapshot.same y.left.snapshot

/-- A provider that is not new was in the turn before. -/
theorem eq_of_not_isNewProvider (h : x.isNewProvider previous = false) :
    ∃ y ∈ previous, x.provider = y.provider := by
  cases previous with
  | none => cases h
  | some y => exact ⟨y, rfl, by simpa [isNewProvider] using h⟩

/-- A pose that is not new was in the turn before, which was fresh too. -/
theorem same_of_not_isNewPose (hx : x.fresh = true) (h : x.isNewPose previous = false) :
    ∃ y ∈ previous, y.fresh = true ∧ x.left.snapshot.same y.left.snapshot = true := by
  cases previous with
  | none => simp [isNewPose, hx] at h
  | some y => exact ⟨y, rfl, by simpa [isNewPose, hx] using h⟩

/-- The turn reports a new provider, then a new pose, and nothing else. -/
def Exact (tick : Nat) (previous : Option Turn) (x : Turn) : Prop :=
  ∃ name, x.events =
    (if x.isNewProvider previous then
      [.provider tick (x.left.providing?.map fun p => (p.id, name))] else []) ++
    (if x.isNewPose previous then [.pose tick x.left.snapshot] else [])

end Turn

/-- What was reported last goes with the turn before. The provider is the one that it had. The pose
is none if its data was not fresh, and else one that equals its pose. -/
structure Seen.Recalls (seen : Seen) (previous : Option Turn) : Prop where
  provider : seen.provider = previous.map Turn.provider
  pose : ∀ x ∈ previous, x.fresh = true → ∃ q, seen.pose = some q ∧ q.same x.left.snapshot = true
  stale : (∀ x ∈ previous, x.fresh = false) → seen.pose = none

namespace Seen

variable {seen : Seen}

theorem recalls_nothing : nothing.Recalls none := ⟨rfl, by simp, fun _ => rfl⟩

/-- Who recalls the turn before knows whether a provider is new. -/
theorem Recalls.isNewProvider_eq (h : seen.Recalls previous) :
    seen.isNewProvider (observe x.fresh x.left) = x.isNewProvider previous := by
  rw [isNewProvider, h.provider, Turn.isNewProvider]
  cases previous with
  | none => rfl
  | some y =>
    change (some y.provider != some x.provider) = (x.provider != y.provider)
    rw [Bool.eq_iff_iff, bne_iff_ne, bne_iff_ne, ne_comm, ne_eq, Option.some.injEq]

/-- It does not matter that the pose is compared with the last one reported: that one equals the
pose of the turn before. -/
theorem Recalls.isNewPose_eq (h : seen.Recalls previous) :
    seen.isNewPose (observe x.fresh x.left) = x.isNewPose previous := by
  unfold isNewPose Turn.isNewPose observe
  congr 1
  cases hprevious : previous with
  | none => rw [h.stale (by simp [hprevious]), Option.all_none]
  | some y =>
    rw [Option.all_some]
    cases hy : y.fresh with
    | false => rw [h.stale (by simp [hprevious, hy]), Bool.not_false, Bool.true_or]
    | true =>
      obtain ⟨q, hq, hsame⟩ := h.pose y hprevious hy
      have heq : q.same x.left.snapshot = x.left.snapshot.same y.left.snapshot := by
        rw [Bool.eq_iff_iff]
        exact ⟨fun hx => Snapshot.same_trans (Snapshot.same_symm hx) hsame,
          fun hx => Snapshot.same_trans hsame (Snapshot.same_symm hx)⟩
      rw [hq, Bool.not_true, Bool.false_or]
      exact congrArg (!·) heq

/-- A pose that is not new is fresh data's if the last one reported equals it. -/
theorem Recalls.after (h : seen.Recalls previous)
    (hfinite : x.left.snapshot.same x.left.snapshot = true) :
    (seen.after (observe x.fresh x.left)).Recalls (some x) := by
  have hnew := h.isNewPose_eq (x := x)
  constructor
  case provider => rfl
  case pose =>
    rintro _ ⟨⟩ hx
    unfold Seen.after
    by_cases hpose : x.isNewPose previous = true
    · exact ⟨x.left.snapshot, by rw [if_pos (hnew.trans hpose)]; rfl, hfinite⟩
    · -- there is a pose that was reported, and it equals this one
      rw [hnew, if_neg hpose, observe, if_pos hx]
      rw [← hnew] at hpose
      unfold isNewPose at hpose
      cases hq : seen.pose with
      | none => simp [hq, observe, hx] at hpose
      | some q => exact ⟨q, rfl, by simpa [hq, observe, hx] using hpose⟩
  case stale =>
    intro hstale
    have hx : x.fresh = false := hstale x rfl
    simp [Seen.after, isNewPose, observe, hx]

end Seen

/-! ## The events of one turn -/

/-- The event tells the change. -/
inductive Told (tick : Nat) (r : Registry) : Change → WatchEvent → Prop
  | provider (id : Option PluginId) (name : String) :
      Told tick r (.provider id) (.provider tick (r.providing?.map fun p => (p.id, name)))
  | pose (s : Snapshot) : Told tick r (.pose s) (.pose tick s)

/-- All that is asked for an event is the provider's name. -/
theorem event_inv {c : Change} {e : WatchEvent} (h : Yields (c.event tick r) t e) :
    Told tick r c e ∧ t.written = [] := by
  cases c with
  | pose s =>
    obtain ⟨rfl, rfl⟩ := yields_done.1 h
    exact ⟨.pose s, rfl⟩
  | provider id =>
    have htold (name : String) : Told tick r (.provider id)
        (.provider tick (r.providing?.map fun p => (p.id, name))) := .provider id name
    dsimp only [Change.event] at h
    cases hp : r.providing? with
    | none =>
      rw [hp] at h htold
      obtain ⟨rfl, rfl⟩ := yields_done.1 h
      exact ⟨htold "", rfl⟩
    | some p =>
      rw [hp] at h htold
      obtain ⟨u, v, name, rfl, hname, hdone⟩ := yields_bind.1 h
      obtain ⟨rfl, rfl⟩ := yields_done.1 hdone
      exact ⟨htold name, by rw [List.append_nil, written_of_asks Plugin.asks_name hname]⟩

/-- Changes are written in their order, each as an event that tells it. -/
theorem writeChanges_inv {cs : List Change} {y : Except OutputError Unit}
    (h : Yields (writeChanges format tick r cs) t y) (ht : t.Written) :
    y = .ok () ∧ ∃ events, List.Forall₂ (Told tick r) cs events ∧
      t.written = events.flatMap (·.texts format) := by
  induction cs generalizing t with
  | nil =>
    obtain ⟨rfl, rfl⟩ := yields_done.1 h
    exact ⟨rfl, [], .nil, rfl⟩
  | cons c cs ih =>
    obtain ⟨u, v, e, rfl, hevent, h⟩ := yields_bind.1 h
    obtain ⟨v, w, z, rfl, hwrite, h⟩ := yields_bind.1 h
    obtain ⟨htold, hu⟩ := event_inv hevent
    obtain ⟨rfl, hv⟩ := WatchEvent.write_inv hwrite ht.right.left
    obtain ⟨hy, events, htolds, hw⟩ := ih h ht.right.right
    exact ⟨hy, e :: events, .cons htold htolds, by simp [hu, hv, hw]⟩

/-- A pose is told by an event with the number of the tick. -/
theorem told_pose {data : Snapshot} {b : Bool} {es : List WatchEvent}
    (h : List.Forall₂ (Told tick r) (if b then [.pose data] else []) es) :
    es = if b then [.pose tick data] else [] := by
  cases b with
  | false => exact List.forall₂_nil_left_iff.1 h
  | true =>
    obtain ⟨e, _, ⟨⟩, ⟨⟩, rfl⟩ := List.forall₂_cons_left_iff.1 h
    rfl

/-- What is told of the changes of a turn is what is new in it. -/
theorem Seen.Recalls.exact {seen : Seen} (h : seen.Recalls previous)
    (htold : List.Forall₂ (Told tick x.left) (seen.changes (observe x.fresh x.left)) x.events) :
    x.Exact tick previous := by
  unfold Seen.changes at htold
  rw [h.isNewProvider_eq, h.isNewPose_eq] at htold
  unfold Turn.Exact
  cases hprovider : x.isNewProvider previous with
  | false =>
    rw [hprovider] at htold
    exact ⟨"", told_pose htold⟩
  | true =>
    rw [hprovider] at htold
    obtain ⟨e, es, he, hes, hevents⟩ := List.forall₂_cons_left_iff.1 htold
    cases he with
    | provider _ name => exact ⟨name, by rw [hevents, told_pose hes]; rfl⟩

/-! ## Turns one after the other -/

/-- The pause in front of a turn. The first turn of all has none. -/
def pauseBefore (interval tick : Nat) : Transcript :=
  if tick = 0 then [] else [⟨.pause interval, ()⟩]

theorem written_pauseBefore : (pauseBefore interval tick).written = [] := by
  unfold pauseBefore
  split <;> rfl

/-- Turns of a watch, with everything that is asked and answered in them. Each is a tick of the
registry that the one before left. What is new after the tick is written, and nothing else. -/
inductive Watched (format : OutputFormat) (interval : Nat) :
    Nat → Option Turn → Registry → List Turn → Transcript → Registry → Prop
  | nil {tick : Nat} {previous : Option Turn} {r : Registry} :
      Watched format interval tick previous r [] [] r
  | cons {tick : Nat} {previous : Option Turn} {r s : Registry} {x : Turn} {xs : List Turn}
      {t : Transcript}
      (hticking : Yields r.tick x.ticking (x.fresh, x.left))
      (hexact : x.Exact tick previous)
      (hreporting : x.reporting.written = x.events.flatMap (·.texts format))
      (h : Watched format interval (tick + 1) (some x) x.left xs t s) :
      Watched format interval tick previous r (x :: xs)
        (pauseBefore interval tick ++ x.ticking ++ x.reporting ++ t) s

/-- What a watch writes is what its turns report. -/
theorem Watched.written_eq (h : Watched format interval tick previous r xs t s) :
    t.written = xs.flatMap fun x => x.events.flatMap (·.texts format) := by
  induction h with
  | nil => rfl
  | cons hticking _ hreporting _ ih =>
    rw [written_append, written_append, written_append, written_pauseBefore,
      written_of_asks Registry.asks_tick hticking, hreporting, ih]
    rfl

/-- The pause and what follows it. -/
theorem yields_pause_bind {α : Type} {f : Unit → Interaction α} {a : α}
    (h : Yields (if tick != 0 then query (.pause interval) >>= f else f ()) t a) :
    ∃ u, t = pauseBefore interval tick ++ u ∧ Yields (f ()) u a := by
  unfold pauseBefore
  by_cases htick : tick = 0
  · rw [if_neg (by simp [htick])] at h
    exact ⟨t, by rw [if_pos htick, List.nil_append], h⟩
  · rw [if_pos (by simp [htick])] at h
    obtain ⟨u, v, a, rfl, hu, hv⟩ := yields_bind.1 h
    exact ⟨v, by rw [if_neg htick, yields_query.1 hu], hv⟩

/-- One turn of a watch, and the rest of it if all could be written. -/
theorem watch_succ_inv {n : Nat} {seen : Seen} {y : Except OutputError Unit × Registry}
    (h : Yields (watch format interval (n + 1) tick seen r) t y) :
    ∃ u v w fresh s z, t = pauseBefore interval tick ++ u ++ v ++ w ∧ Yields r.tick u (fresh, s) ∧
      Yields (writeChanges format tick s (seen.changes (observe fresh s))) v z ∧
      (z = .ok () →
        Yields (watch format interval n (tick + 1) (seen.after (observe fresh s)) s) w y) := by
  unfold watch at h
  obtain ⟨v, rfl, hv⟩ := yields_pause_bind h
  obtain ⟨u, v, ⟨fresh, s⟩, rfl, hu, hv⟩ := yields_bind.1 hv
  obtain ⟨v, w, z, rfl, hv, hw⟩ := yields_bind.1 hv
  refine ⟨u, v, w, fresh, s, z, by simp, hu, hv, ?_⟩
  rintro rfl
  exact hw

/-- A watch whose writes succeed goes on to its last tick. -/
theorem watched_of_watch {d : PluginDirectories} {h : History} {n : Nat} {seen : Seen}
    {y : Except OutputError Unit × Registry} (hf : (Registry.new d).Follows h r)
    (hseen : seen.Recalls previous) (hw : Yields (watch format interval n tick seen r) t y)
    (ht : t.Written) :
    y.1 = .ok () ∧
      ∃ xs : List Turn, xs.length = n ∧ Watched format interval tick previous r xs t y.2 := by
  induction n generalizing tick seen previous r t h with
  | zero =>
    obtain ⟨rfl, rfl⟩ := yields_done.1 hw
    exact ⟨rfl, [], rfl, .nil⟩
  | succ n ih =>
    obtain ⟨u, v, w, fresh, s, z, rfl, htick, hchanges, hrest⟩ := watch_succ_inv hw
    obtain ⟨rfl, events, htold, hwritten⟩ := writeChanges_inv hchanges ht.left.right
    have hs : (Registry.new d).Follows (h ++ [(.tick, u)]) s :=
      hf.snoc (yields_map.2 ⟨_, rfl, htick⟩)
    let x : Turn := ⟨fresh, s, u, v, events⟩
    obtain ⟨hy, xs, hlength, hxs⟩ :=
      ih hs (hseen.after (x := x) hs.same_snapshot) (hrest rfl) ht.right
    exact ⟨hy, x :: xs, by rw [List.length_cons, hlength],
      .cons (x := x) htick (hseen.exact htold) hwritten hxs⟩

/-! ## Reading a watch -/

/-- The turn before one of some turns. -/
def turnBefore (previous : Option Turn) (xs : List Turn) : Nat → Option Turn
  | 0 => previous
  | k + 1 => xs[k]?

/-- The turn before the next one is this one. -/
theorem turnBefore_cons {k : Nat} :
    turnBefore previous (x :: xs) (k + 1) = turnBefore (some x) xs k := by
  cases k <;> rfl

/-- Each turn is exact, with the turn before it. Induction on the run, so that the turns are counted
from its start. -/
theorem Watched.exact (h : Watched format interval tick previous r xs t s) (k : Nat) (y : Turn)
    (hy : xs[k]? = some y) :
    y.Exact (tick + k) (turnBefore previous xs k) := by
  induction h generalizing k with
  | nil => cases hy
  | cons _ hexact _ _ ih =>
    cases k with
    | zero =>
      obtain rfl := Option.some.inj hy
      exact hexact
    | succ k =>
      rw [turnBefore_cons, Nat.add_succ, ← Nat.succ_add]
      exact ih k hy

/-- The provider that an event tells of. -/
def WatchEvent.toldProvider? : WatchEvent → Option (Option PluginId)
  | provider _ who => some (who.map (·.1))
  | pose .. => none

def WatchEvent.toldPose? : WatchEvent → Option Snapshot
  | provider .. => none
  | pose _ data => some data

namespace Turn.Exact

/-- A turn tells a provider if it is new, and no other. -/
theorem told_providers (h : x.Exact tick previous) :
    x.events.filterMap WatchEvent.toldProvider? =
      if x.isNewProvider previous then [x.provider] else [] := by
  obtain ⟨name, h⟩ := h
  have hid : (x.left.providing?.map fun p => (p.id, name)).map (·.1) = x.provider :=
    Option.map_map ..
  rw [h, List.filterMap_append]
  cases x.isNewProvider previous <;> cases x.isNewPose previous <;>
    simp [WatchEvent.toldProvider?, hid]

/-- A turn tells a pose if it is new, and no other. -/
theorem told_poses (h : x.Exact tick previous) :
    x.events.filterMap WatchEvent.toldPose? =
      if x.isNewPose previous then [x.left.snapshot] else [] := by
  obtain ⟨name, h⟩ := h
  rw [h, List.filterMap_append]
  cases x.isNewProvider previous <;> cases x.isNewPose previous <;>
    simp [WatchEvent.toldPose?]

end Turn.Exact

/-- The last provider that some events tell of is the one after a turn, and the last pose equals the
one after it if its data is fresh. -/
structure Replays (es : List WatchEvent) (x : Turn) : Prop where
  provider : (es.filterMap WatchEvent.toldProvider?).getLast? = some x.provider
  pose : x.fresh = true →
    ∃ q, (es.filterMap WatchEvent.toldPose?).getLast? = some q ∧ q.same x.left.snapshot = true

/-- What a turn does not report is known from the turns before. -/
theorem Turn.Exact.replays {es : List WatchEvent} (h : x.Exact tick previous)
    (hfinite : x.left.snapshot.same x.left.snapshot = true)
    (hes : ∀ y ∈ previous, Replays es y) : Replays (es ++ x.events) x := by
  constructor
  case provider =>
    rw [List.filterMap_append, h.told_providers]
    cases hnew : x.isNewProvider previous with
    | true => simp
    | false =>
      obtain ⟨y, hy, hsame⟩ := Turn.eq_of_not_isNewProvider hnew
      simpa [hsame] using (hes y hy).provider
  case pose =>
    intro hx
    rw [List.filterMap_append, h.told_poses]
    cases hnew : x.isNewPose previous with
    | true => exact ⟨x.left.snapshot, by simp, hfinite⟩
    | false =>
      obtain ⟨y, hy, hfresh, hsame⟩ := Turn.same_of_not_isNewPose hx hnew
      obtain ⟨q, hq, hqy⟩ := (hes y hy).pose hfresh
      exact ⟨q, by simpa using hq, Snapshot.same_trans hqy (Snapshot.same_symm hsame)⟩

/-- What was told up to a turn says what is so in it. Induction on the run: what is not told again
is so from the turn before. -/
theorem Watched.replays {d : PluginDirectories} {h : History} {es : List WatchEvent}
    (hf : (Registry.new d).Follows h r) (hw : Watched format interval tick previous r xs t s)
    (hes : ∀ y ∈ previous, Replays es y) (k : Nat) (y : Turn) (hy : xs[k]? = some y) :
    Replays (es ++ (xs.take (k + 1)).flatMap (·.events)) y := by
  induction hw generalizing k es h with
  | nil => cases hy
  | @cons _ _ _ _ x xs _ hticking hexact _ _ ih =>
    have hx : (Registry.new d).Follows (h ++ [(.tick, x.ticking)]) x.left :=
      hf.snoc (yields_map.2 ⟨_, rfl, hticking⟩)
    have hreplays := hexact.replays hx.same_snapshot hes
    cases k with
    | zero =>
      obtain rfl := Option.some.inj hy
      simpa using hreplays
    | succ k =>
      rw [List.take_succ_cons, List.flatMap_cons, ← List.append_assoc]
      exact ih hx (by simpa using hreplays) k hy

/-- A watch of some ticks whose writes succeed. It runs all of them, and after each it reports the
provider if that is another one than after the tick before, and the pose if its data is fresh and
that of the tick before was not or was another one. So the reports tell of the provider after every
tick, and of the pose wherever data is fresh. -/
theorem watch_reports_changes {d : PluginDirectories} {h : History} {n : Nat}
    {y : Except OutputError Unit × Registry} (hf : (Registry.new d).Follows h r)
    (hw : Yields (watch format interval n 0 .nothing r) t y) (ht : t.Written) :
    y.1 = .ok () ∧ ∃ xs : List Turn, xs.length = n ∧
      Watched format interval 0 none r xs t y.2 ∧
      (t.written = xs.flatMap fun x => x.events.flatMap (·.texts format)) ∧
      (∀ (k : Nat) (x : Turn), xs[k]? = some x → x.Exact k (turnBefore none xs k)) ∧
      ∀ (k : Nat) (x : Turn), xs[k]? = some x →
        Replays ((xs.take (k + 1)).flatMap (·.events)) x := by
  obtain ⟨hy, xs, hlength, hxs⟩ := watched_of_watch hf Seen.recalls_nothing hw ht
  refine ⟨hy, xs, hlength, hxs, hxs.written_eq, fun k x hx => ?_, fun k x hx => ?_⟩
  · simpa using hxs.exact k x hx
  · have hnone : ∀ z ∈ (none : Option Turn), Replays [] z := by simp
    exact hxs.replays hf hnone k x hx

end Probe

namespace Duo

/-- A position one metre along. -/
def astep : Vector3 := ⟨.one, .zero, .zero⟩

/-- Both plugins are registered. -/
def scanned : History × Registry :=
  start.record (answer astep)
    [.registerBuiltIn ⟨"first", .current⟩, .registerBuiltIn ⟨"second", .current⟩, .rescan ⟨[], []⟩]

def watched (format : Probe.OutputFormat) :
    Transcript × (Except Probe.OutputError Unit × Registry) :=
  (Probe.watch format 50 3 0 .nothing scanned.2).record (answer astep)

end Duo

namespace Probe

/-- The first plugin takes the offer at once and says the same in each of three ticks. So there is
one event of each kind, whoever reads it. -/
theorem watch_reports_changes_duo :
    (Duo.watched .human).2.1 = .ok () ∧ (Duo.watched .json).2.1 = .ok () ∧
    (Duo.watched .human).1.written =
      ["tick 0: positional data from plugin 1 (Unknown plugin)\n",
        "tick 0: avatar (1.00, 0.00, 0.00) camera (0.00, 0.00, 0.00) context '' identity ''\n"] ∧
    (Duo.watched .json).1.written =
      ["\x7b\"event\":\"provider\",\"tick\":0,\"plugin_id\":1,\"name\":\"Unknown plugin\"\x7d",
        "\n",
        "\x7b\"event\":\"pose\",\"tick\":0,\"data\":\x7b" ++
          "\"avatar_position\":\x7b\"x\":1.0,\"y\":0.0,\"z\":0.0\x7d," ++
          "\"avatar_front\":\x7b\"x\":0.0,\"y\":0.0,\"z\":0.0\x7d," ++
          "\"avatar_top\":\x7b\"x\":0.0,\"y\":0.0,\"z\":0.0\x7d," ++
          "\"camera_position\":\x7b\"x\":0.0,\"y\":0.0,\"z\":0.0\x7d," ++
          "\"camera_front\":\x7b\"x\":0.0,\"y\":0.0,\"z\":0.0\x7d," ++
          "\"camera_top\":\x7b\"x\":0.0,\"y\":0.0,\"z\":0.0\x7d," ++
          "\"context\":\"\",\"identity\":\"\"\x7d\x7d",
        "\n"] ∧
    (∃ xs : List Turn, xs.length = 3 ∧
      (Duo.watched .human).1.written = xs.flatMap fun x => x.events.flatMap (·.texts .human)) ∧
    ∃ xs : List Turn, xs.length = 3 ∧
      (Duo.watched .json).1.written = xs.flatMap fun x => x.events.flatMap (·.texts .json) := by
  have hsucceeds (format : OutputFormat) : (Duo.watched format).1.Written :=
    written_record (fun _ => rfl) _
  obtain ⟨hhuman, xs, hlength, -, hwords, -⟩ := watch_reports_changes
    (Registry.follows_record (Duo.answer Duo.astep) Duo.start _) (yields_record ..)
    (hsucceeds .human)
  obtain ⟨hjson, ys, hlength', -, hobjects, -⟩ := watch_reports_changes
    (Registry.follows_record (Duo.answer Duo.astep) Duo.start _) (yields_record ..)
    (hsucceeds .json)
  exact ⟨hhuman, hjson, by decide +kernel, by decide +kernel, ⟨xs, hlength, hwords⟩,
    ys, hlength', hobjects⟩

end Probe
end PluginHost
