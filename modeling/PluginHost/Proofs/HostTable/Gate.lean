import PluginHost.Proofs.HostTable.Memory
import PluginHost.Proofs.Text.RoundTrip

/-!
# The gate in front of the bridge

A function of the host's table looks at its pointers first, then for a bridge, and puts one question
to it. What a function needs is said here once more without the order in which it looks, and the
table is shown to keep to it.

* **`Request.Complete`**: every pointer that the function needs is there, and a mode is a known one.
  **`Request.complaint`**: the status otherwise.
* **`Request.intent`**: what the caller wants to know or to be done, in the caller's own arguments.
* **`Request.dismissal`**: the status of each function while nobody is installed to answer.
* **`Request.question_eq`**: the question of a request is its intent if the request is complete.
* **`Bridge.verdict`**: the status of what a bridge says. **`Bridge.Produces`**: whether that is a
  value that can be handed out.
* **`Written.parameters`**, **`Written.read`**: how many out-parameters were written, and what a
  plugin reads there.
* **`gatekeeping`**: all of it for one request. **`asked_servings`**: what the bridges hear in a
  run.
-/

namespace PluginHost
namespace HostTable

/-! ## What the caller says -/

/-- The text before the first zero byte. A null pointer stands for the empty text. -/
def TextPointer.text (p : TextPointer) : String := Utf8.decode ((p.getD []).takeWhile (· != 0))

/-- An array that is not empty needs its pointer. -/
def ArrayPointer.Present {α : Type} (a : ArrayPointer α) : Prop := a.count = 0 ∨ a.items ≠ none

/-- The items of an array, as many as the caller counts. -/
def ArrayPointer.content {α : Type} (a : ArrayPointer α) : List α := (a.items.getD []).take a.count

namespace Request

/-- What the function needs is there: its out-pointers (an array has one more, for the count), its
texts, its arrays, and a mode that is known. -/
def Complete : Request → Prop
  | freeMemory _ | moveUser .. | overwriteMicrophone _ => True
  | ask i outIsNull countIsNull => outIsNull = false ∧ (i.shape = .numbers → countIsNull = false)
  | findUser _ name outIsNull | findChannel _ name outIsNull => name ≠ none ∧ outIsNull = false
  | setTransmissionMode m => m.code = 0 ∨ m.code = 1 ∨ m.code = 2
  | sendData _ _ users data dataId => users.Present ∧ data.Present ∧ dataId ≠ none
  | log _ message => message ≠ none
  | playSample _ path => path ≠ none

instance {α : Type} (a : ArrayPointer α) : Decidable a.Present :=
  inferInstanceAs (Decidable (_ ∨ _))

instance : (r : Request) → Decidable r.Complete
  | freeMemory _ | moveUser .. | overwriteMicrophone _ => .isTrue trivial
  | ask .. | findUser .. | findChannel .. => inferInstanceAs (Decidable (_ ∧ _))
  | setTransmissionMode _ => inferInstanceAs (Decidable (_ ∨ _))
  | sendData .. => inferInstanceAs (Decidable (_ ∧ _ ∧ _))
  | log .. | playSample .. => inferInstanceAs (Decidable (_ ≠ none))

/-- The status of a request that is not complete. -/
def complaint : Request → Status
  | setTransmissionMode _ => .unknownTransmissionMode
  | playSample .. => .invalidSample
  | _ => .genericError

/-- What the caller wants, in the caller's own arguments. Whoever gives memory back wants nothing of
the bridge. -/
def intent : Request → Option Question
  | freeMemory _ => none
  | ask i _ _ => some (.inquiry i)
  | findUser conn name _ => some (.inquiry (.findUser conn name.text))
  | findChannel conn name _ => some (.inquiry (.findChannel conn name.text))
  | setTransmissionMode m => some (.command (.setTransmissionMode m))
  | moveUser conn user channel password =>
    some (.command (.moveUser conn user channel password.text))
  | overwriteMicrophone on => some (.command (.overwriteMicrophone on))
  | sendData caller conn users data dataId =>
    some (.command (.sendData caller conn users.content data.content dataId.text))
  | log caller message => some (.command (.log caller message.text))
  | playSample caller path => some (.command (.playSample caller path.text))

/-- Only giving memory back wants nothing of the bridge. -/
theorem intent_eq_none {r : Request} : r.intent = none ↔ ∃ a, r = .freeMemory a := by
  cases r <;> simp [intent]

/-- The status of a complete request while no bridge is installed, function by function. What hangs
on a connection reports that the connection is not there; a line for the log is accepted whoever
listens. Giving memory back needs no bridge. -/
def dismissal : Request → Status
  | ask .activeConnection _ _ => .noActiveConnection
  | ask .transmissionMode _ _ | setTransmissionMode _ | overwriteMicrophone _ => .genericError
  | ask (.localUser _) _ _ | ask (.userName ..) _ _ | ask (.channelName ..) _ _
  | ask (.allUsers _) _ _ | ask (.allChannels _) _ _ | ask (.channelOfUser ..) _ _
  | ask (.usersInChannel ..) _ _ | ask (.findUser ..) _ _ | ask (.findChannel ..) _ _
  | findUser .. | findChannel .. | moveUser .. | sendData .. => .connectionNotFound
  | playSample .. => .audioNotAvailable
  | log .. | freeMemory _ => .ok

/-- The table answers for a missing bridge by what it would have asked. That comes to the same as
going by the function that was called. -/
theorem unavailable_of_intent {r : Request} {q : Question} (hq : r.intent = some q) :
    q.unavailable = r.dismissal := by
  cases r with
  | freeMemory a => cases hq
  | ask i outIsNull countIsNull =>
    obtain rfl : .inquiry i = q := Option.some.inj hq
    cases i <;> rfl
  | _ =>
    obtain rfl := Option.some.inj hq
    rfl

end Request

/-! ## What comes of it -/

/-- A value that can be handed out. A text with a zero character inside cannot. -/
def Shape.Representable : (s : Shape) → s.Value → Prop
  | .number, _ | .numbers, _ => True
  | .text, t => '\x00' ∉ t.toList

instance : (s : Shape) → (value : s.Value) → Decidable (s.Representable value)
  | .number, _ | .numbers, _ => .isTrue trivial
  | .text, t => inferInstanceAs (Decidable ('\x00' ∉ t.toList))

namespace Bridge

/-- The status of what a bridge says to a question. -/
def verdict (b : Bridge) : Question → Status
  | .command c => b.obey c
  | .inquiry i =>
    match b.inquire i with
    | .error status => status
    | .ok value => if i.shape.Representable value then .ok else .genericError

/-- The bridge has a value for the question, and it can be handed out. -/
def Produces (b : Bridge) (q : Question) : Prop :=
  ∃ i value, q = .inquiry i ∧ b.inquire i = .ok value ∧ i.shape.Representable value

/-- Two bridges say the same to a question. -/
def Agree (b b' : Bridge) : Question → Prop
  | .command c => b.obey c = b'.obey c
  | .inquiry i => b.inquire i = b'.inquire i

end Bridge

/-- How many out-parameters a value of the shape takes: an array comes with its count. -/
def Shape.parameters : Shape → Nat
  | .number | .text => 1
  | .numbers => 2

theorem Shape.parameters_pos (s : Shape) : 0 < s.parameters := by
  cases s <;> decide

namespace Written

/-- How many out-parameters were written. -/
def parameters : Written → Nat
  | nothing => 0
  | number _ | text .. => 1
  | array .. | emptyArray => 2

/-- What a plugin reads in its out-parameters if it expects a value of the shape. -/
def read : Written → (s : Shape) → Option s.Value
  | number n, .number => some n
  | text _ bytes, .text => some (Utf8.decodeTerminated (bytes ++ [0]))
  | array _ items, .numbers => some items
  | emptyArray, .numbers => some []
  | _, _ => none

end Written

/-! ## Checks -/

/-- A text that is there is read with what is no text replaced. -/
theorem readText_eq (p : TextPointer) : readText p = if p = none then none else some p.text := by
  cases p <;> rfl

/-- A pointer to a text that may be null. -/
theorem getD_readText (p : TextPointer) : (readText p).getD "" = p.text := by
  cases p with
  | none => simp [readText, TextPointer.text, Utf8.decode, Utf8.decodeChars]
  | some bytes => rfl

/-- An array is read if there is one. -/
theorem readArray_eq {α : Type} (a : ArrayPointer α) :
    readArray a = if a.Present then some a.content else none := by
  obtain ⟨items, count⟩ := a
  by_cases h : count = 0
  · simp [readArray, ArrayPointer.Present, ArrayPointer.content, h]
  · cases items <;> simp [readArray, ArrayPointer.Present, ArrayPointer.content, h]

/-- Three codes are modes. -/
theorem isKnown_iff (m : TransmissionMode) :
    m.isKnown = true ↔ m.code = 0 ∨ m.code = 1 ∨ m.code = 2 := by
  simp only [TransmissionMode.isKnown, Bool.and_eq_true, decide_eq_true_eq, ← Int32.toInt_inj]
  change _ ↔ m.code.toInt = 0 ∨ m.code.toInt = 1 ∨ m.code.toInt = 2
  omega

/-- A reply needs a place to be written to, and numbers one for their count besides. -/
theorem outPointers_eq (i : Inquiry) (outIsNull countIsNull : Bool) :
    outPointers i outIsNull countIsNull =
      if outIsNull = false ∧ (i.shape = .numbers → countIsNull = false) then .ok (.inquiry i)
      else .error .genericError := by
  cases outIsNull <;> cases countIsNull <;> cases hi : i.shape <;> simp [outPointers, hi]

/-- A request that is complete puts its intent. One that is not is refused. -/
theorem Request.question_eq (r : Request) :
    r.question = if r.Complete then .ok r.intent else .error r.complaint := by
  cases r with
  | freeMemory a => rfl
  | moveUser conn user channel password =>
    simp [question, Complete, intent, getD_readText]
  | overwriteMicrophone on => rfl
  | ask i outIsNull countIsNull =>
    simp only [question, Complete, intent, complaint, outPointers_eq, apply_ite (Except.map some)]
    exact ite_congr rfl (fun _ => rfl) (fun _ => rfl)
  | findUser conn name outIsNull | findChannel conn name outIsNull =>
    cases name with
    | none => simp [question, Complete, complaint, readText]
    | some bytes => cases outIsNull <;> simp [question, Complete, complaint, intent, readText_eq,
        outPointers_eq, Inquiry.shape, Except.map]
  | setTransmissionMode m =>
    simp only [question, isKnown_iff, Complete, intent, complaint]
    exact ite_congr rfl (fun _ => rfl) (fun _ => rfl)
  | sendData caller conn users data dataId =>
    simp only [question, readArray_eq, readText_eq, Complete, intent, complaint]
    by_cases hu : users.Present <;> by_cases hd : data.Present <;> cases dataId <;>
      simp [hu, hd]
  | log caller text | playSample caller text =>
    cases text <;> simp [question, Complete, intent, complaint, readText_eq]

/-! ## One request -/

/-- A value that can be handed out is written to every out-parameter that it takes and is read there
as it was. Any other value is written nowhere. -/
theorem deliver_eq (fresh : Nat) (c : Curator) (s : Shape) (value : s.Value) :
    ((deliver fresh c s value).1 = if s.Representable value then .ok else .genericError) ∧
      ((deliver fresh c s value).2.1.parameters =
        if s.Representable value then s.parameters else 0) ∧
      (s.Representable value → (deliver fresh c s value).2.1.read s = some value) := by
  cases s with
  | number => exact ⟨rfl, rfl, fun _ => rfl⟩
  | numbers => cases value <;> exact ⟨rfl, rfl, fun _ => rfl⟩
  | text =>
    by_cases h : '\x00' ∈ String.toList value
    · simp [deliver, Shape.Representable, Utf8.hasNul_eq, h, Written.parameters]
    · have hread := Utf8.decodeTerminated_encode h ⟨[0], rfl, by simp⟩
      simp [deliver, Shape.Representable, Utf8.hasNul_eq, h, Written.parameters, Shape.parameters,
        Written.read, hread]

theorem Written.parameters_eq_zero {w : Written} : w.parameters = 0 ↔ w = .nothing := by
  cases w <;> simp [parameters]

/-- What comes of a question that reaches the bridge. -/
def Bridge.respond (b : Bridge) (fresh : Nat) (c : Curator) (line : Option (PluginId × String)) :
    Question → Serving
  | .command command => ⟨b.obey command, .nothing, [.command command], line, c⟩
  | .inquiry i =>
    match b.inquire i with
    | .error status => ⟨status, .nothing, [.inquiry i], none, c⟩
    | .ok value =>
      let (status, written, c) := deliver fresh c i.shape value
      ⟨status, written, [.inquiry i], none, c⟩

/-- An inquiry that was answered is produced if its value can be represented. -/
theorem Bridge.produces_inquiry {b : Bridge} {i : Inquiry} {value : i.shape.Value}
    (hi : b.inquire i = .ok value) : b.Produces (.inquiry i) ↔ i.shape.Representable value := by
  constructor
  · rintro ⟨_, value', ⟨⟩, hvalue, hrep⟩
    rw [hi] at hvalue
    cases hvalue
    exact hrep
  · exact fun hrep => ⟨i, value, rfl, hi, hrep⟩

/-- What a bridge decides: the status, and whether and how the out-parameters are written. -/
theorem Bridge.respond_spec (b : Bridge) (fresh : Nat) (c : Curator)
    (line : Option (PluginId × String)) (q : Question) :
    (b.respond fresh c line q).asked = [q] ∧
      (b.respond fresh c line q).status = b.verdict q ∧
      ((b.respond fresh c line q).written ≠ .nothing ↔ b.Produces q) ∧
      ∀ i value, q = .inquiry i → b.inquire i = .ok value → i.shape.Representable value →
        (b.respond fresh c line q).written.parameters = i.shape.parameters ∧
          (b.respond fresh c line q).written.read i.shape = some value := by
  cases q with
  | command command =>
    refine ⟨rfl, rfl, ?_, by rintro _ _ ⟨⟩⟩
    simp [respond, Produces]
  | inquiry i =>
    simp only [respond, verdict]
    cases hi : b.inquire i with
    | error status =>
      refine ⟨rfl, rfl, by simp [Produces, hi], ?_⟩
      rintro _ value ⟨⟩ hvalue
      rw [hi] at hvalue
      cases hvalue
    | ok value =>
      obtain ⟨hstatus, hparameters, hread⟩ := deliver_eq fresh c i.shape value
      refine ⟨rfl, hstatus, ?_, ?_⟩
      · have hpos := i.shape.parameters_pos
        rw [produces_inquiry hi, ne_eq, ← Written.parameters_eq_zero, hparameters]
        split
        · simp only [*, ne_eq, iff_true]
          omega
        · simp [*]
      · rintro _ value' ⟨⟩ hvalue hrep
        rw [hi] at hvalue
        cases hvalue
        rw [if_pos hrep] at hparameters
        exact ⟨hparameters, hread hrep⟩

/-- What the host has not to do with a question makes no difference to the response. -/
theorem Bridge.respond_congr {b b' : Bridge} {fresh : Nat} {c : Curator}
    {line : Option (PluginId × String)} {q : Question} (h : b.Agree b' q) :
    b'.respond fresh c line q = b.respond fresh c line q := by
  cases q <;> rw [Agree] at h <;> simp only [respond, h]

namespace Visit

variable {v : Visit} {c : Curator} {q : Question} {b : Bridge}

/-- A request that lacks something is refused before anybody is looked for. -/
theorem serving_refused (hv : ¬v.request.Complete) :
    v.serving c = ⟨v.request.complaint, .nothing, [], none, c⟩ := by
  have hquestion : v.request.question = .error v.request.complaint := by
    rw [Request.question_eq, if_neg hv]
  simp only [serving, serve, hquestion]

/-- A complete request for something asks the question that it is for. -/
theorem question_of_intent (hq : v.request.intent = some q) (hv : v.request.Complete) :
    v.request.question = .ok (some q) := by
  rw [Request.question_eq, if_pos hv, hq]

/-- Without a bridge a complete request comes to nothing but its status, and a line for the log. -/
theorem serving_unavailable (hq : v.request.intent = some q) (hv : v.request.Complete)
    (hb : v.bridge = none) :
    v.serving c = ⟨v.request.dismissal, .nothing, [], v.request.logLine, c⟩ := by
  simp only [serving, serve, question_of_intent hq hv, hb, Request.unavailable_of_intent hq]

/-- With a bridge a complete request comes to what the bridge says. -/
theorem serving_answered (hq : v.request.intent = some q) (hv : v.request.Complete)
    (hb : v.bridge = some b) :
    v.serving c = b.respond v.fresh c v.request.logLine q := by
  simp only [serving, serve, question_of_intent hq hv, hb]
  cases q <;> rfl

/-- A bridge matters only by what it says to the question that it is asked. -/
theorem serving_congr {b' : Bridge} (hb : v.bridge = some b)
    (hq : v.request.intent = some q) (h : ∀ q ∈ (v.serving c).asked, b.Agree b' q) :
    ({ v with bridge := some b' } : Visit).serving c = v.serving c := by
  let v' : Visit := { v with bridge := some b' }
  by_cases hv : v.request.Complete
  · have hv' : v'.serving c = b'.respond v.fresh c v.request.logLine q :=
      v'.serving_answered hq hv rfl
    rw [serving_answered hq hv hb, (b.respond_spec ..).1] at h
    rw [hv', serving_answered hq hv hb]
    exact Bridge.respond_congr (h q (by simp))
  · have hv' : v'.serving c = ⟨v.request.complaint, .nothing, [], none, c⟩ := v'.serving_refused hv
    rw [hv', serving_refused hv]

/-- What comes of a request other than giving memory back, by what it lacks, what it wants and what
the bridge says. -/
structure Gatekept (v : Visit) (c : Curator) (q : Question) : Prop where
  asked : (v.serving c).asked = if v.bridge.isSome ∧ v.request.Complete then [q] else []
  /-- The rest of the bridge does not matter. -/
  unheard : ∀ b b', v.bridge = some b → (∀ q ∈ (v.serving c).asked, b.Agree b' q) →
    ({ v with bridge := some b' } : Visit).serving c = v.serving c
  refused : ¬v.request.Complete → (v.serving c).status = v.request.complaint
  unavailable : v.request.Complete → v.bridge = none → (v.serving c).status = v.request.dismissal
  answered : ∀ b, v.request.Complete → v.bridge = some b → (v.serving c).status = b.verdict q
  written : (v.serving c).written ≠ .nothing ↔
    v.request.Complete ∧ ∃ b, v.bridge = some b ∧ b.Produces q
  filled : ∀ b i value, v.request.Complete → v.bridge = some b → q = .inquiry i →
    b.inquire i = .ok value → i.shape.Representable value →
    (v.serving c).written.parameters = i.shape.parameters ∧
      (v.serving c).written.read i.shape = some value

/-- A request is refused, dismissed or answered, and every part of `Gatekept` is read off one of the
three servings. -/
theorem gatekept (hq : v.request.intent = some q) : v.Gatekept c q where
  asked := by
    by_cases hv : v.request.Complete
    · cases hb : v.bridge with
      | none => rw [serving_unavailable hq hv hb, if_neg (by simp)]
      | some b => rw [serving_answered hq hv hb, (b.respond_spec ..).1, if_pos ⟨rfl, hv⟩]
    · rw [serving_refused hv, if_neg fun h => hv h.2]
  unheard b b' hb h := serving_congr hb hq h
  refused hv := by rw [serving_refused hv]
  unavailable hv hb := by rw [serving_unavailable hq hv hb]
  answered b hv hb := by rw [serving_answered hq hv hb, (b.respond_spec ..).2.1]
  written := by
    by_cases hv : v.request.Complete
    · cases hb : v.bridge with
      | none => simp [serving_unavailable hq hv hb]
      | some b => simp [serving_answered hq hv hb, (b.respond_spec ..).2.2.1, hv]
    · simp [serving_refused hv, hv]
  filled b i value hv hb hi hvalue hrep := by
    rw [serving_answered hq hv hb]
    exact (b.respond_spec ..).2.2.2 i value hi hvalue hrep

end Visit

/-- **One request at the gate.** For every function but the one that takes memory back, whatever its
pointers and whoever answers: the bridge hears what the caller wants, once, iff the request is
complete and a bridge is there; the status is the complaint, else the function's own dismissal, else
the bridge's verdict; the out-parameters are written iff there is a value to hand out, and then all
of them. -/
theorem gatekeeping (v : Visit) (c : Curator) (hr : ∀ a, v.request ≠ .freeMemory a) :
    ∃ q, v.request.intent = some q ∧ v.Gatekept c q := by
  cases hq : v.request.intent with
  | none =>
    obtain ⟨a, ha⟩ := Request.intent_eq_none.1 hq
    exact absurd ha (hr a)
  | some q => exact ⟨q, rfl, Visit.gatekept hq⟩

namespace Reuse

/-- The users are an empty list without a pointer. The text has a byte that begins no character, and
it ends before the last byte. -/
def sending : Visit :=
  ⟨some bridge, 8, .sendData 3 1 ⟨none, 0⟩ ⟨some [1, 2, 3], 2⟩ (some [0x61, 0xFF, 0, 0x62])⟩

def naming : Visit := ⟨some bridge, 8, .ask (.userName 1 2) false false⟩

/-- One request for each answer that the table has while nobody is installed. -/
def strays : List Request :=
  [.ask .activeConnection false false, .overwriteMicrophone true, .ask (.userName 1 2) false false,
    .log 3 (some [0x68, 0x69]), .playSample 3 (some [0x61])]

end Reuse

/-- Data is sent with an identity that is not all text, and a name is told. With nobody installed,
five requests are turned down with five different codes. -/
theorem gatekeeping_reuse :
    (Reuse.sending.serving .empty).asked = [.command (.sendData 3 1 [] [1, 2] "a\uFFFD")] ∧
      (Reuse.naming.serving .empty).status = .ok ∧
      (Reuse.naming.serving .empty).written.read .text = some "ann" ∧
      (Reuse.strays.map fun r => ((⟨none, 8, r⟩ : Visit).serving .empty).status.code) =
        [2, -1, 5, 0, 8] := by
  obtain ⟨q, hq, hsending⟩ := gatekeeping Reuse.sending .empty (by rintro a ⟨⟩)
  have hintent : Reuse.sending.request.intent =
      some (.command (.sendData 3 1 [] [1, 2] "a\uFFFD")) := by decide +kernel
  obtain ⟨q', hq', hnaming⟩ := gatekeeping Reuse.naming .empty (by rintro a ⟨⟩)
  obtain rfl : .inquiry (.userName 1 2) = q' := Option.some.inj hq'
  have hstray (r : Request) (hr : ∀ a, r ≠ .freeMemory a) (hc : r.Complete) :
      ((⟨none, 8, r⟩ : Visit).serving .empty).status = r.dismissal := by
    obtain ⟨q, -, hgate⟩ := gatekeeping ⟨none, 8, r⟩ .empty hr
    exact hgate.unavailable hc rfl
  refine ⟨?_, ?_, ?_, ?_⟩
  · rw [hsending.asked, if_pos (by decide), Option.some.inj (hq.symm.trans hintent)]
  · exact hnaming.answered Reuse.bridge (by decide) rfl
  · exact (hnaming.filled Reuse.bridge _ "ann" (by decide) rfl rfl rfl (by
      simp [Shape.Representable, Inquiry.shape])).2
  · have hall : ∀ r ∈ Reuse.strays, (∀ a, r ≠ .freeMemory a) ∧ r.Complete := by
      simp [Reuse.strays, Request.Complete]
    rw [List.map_congr_left fun r hr => congrArg Status.code (hstray r (hall r hr).1 (hall r hr).2)]
    rfl

/-! ## Many requests -/

/-- The question that a visit puts to its bridge. -/
def Visit.heard (v : Visit) : List Question :=
  if v.bridge.isSome ∧ v.request.Complete then v.request.intent.toList else []

/-- What the bridges are asked in a run is what each request wants of the bridge of its time. Memory
that is held, and what was answered before, do not change it. -/
theorem asked_servings (c : Curator) (vs : List Visit) :
    (servings c vs).flatMap (·.2.asked) = vs.flatMap Visit.heard := by
  have hone (c : Curator) (v : Visit) : (v.serving c).asked = v.heard := by
    rw [Visit.heard]
    cases hq : v.request.intent with
    | none =>
      obtain ⟨a, ha⟩ := Request.intent_eq_none.1 hq
      simp [Visit.serving, serve, ha, Request.question]
    | some q => exact (Visit.gatekept hq).asked
  induction vs generalizing c with
  | nil => rfl
  | cons v vs ih => rw [servings, List.flatMap_cons, List.flatMap_cons, hone, ih]

end HostTable
end PluginHost
