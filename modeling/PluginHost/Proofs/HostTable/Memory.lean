import PluginHost.HostTable

/-!
# Memory that plugins hold

What the host's function table hands out is held until it is given back. A place in the table where
a request can fail comes before the place where memory is handed out, so no failure holds any.

* **`HostTable.Visit`**: a request with its circumstances. A list of visits is everything that
  plugins ask of the table, while bridges come and go.
* **`Visit.handsOut`**: whether a visit ends with memory handed out. The request and the answer of
  the bridge decide that, not the memory that is held already.
* **`Visit.serving_inv`**: the cases of a visit. **`Visit.mem_curator_serving`**: what one visit
  does to the addresses that are held.
* **`HostTable.Fresh`**: the allocator never gives the null address or one that is held.
* **`allocations_balance`**: held is what was handed out and not given back, and each address can be
  given back exactly once.
-/

namespace PluginHost
namespace HostTable

/-! ## The addresses that are held -/

namespace Curator

variable {c : Curator} {a : Nat}

/-- No address is held twice, and the null address is not held. -/
structure Sound (c : Curator) : Prop where
  distinct : c.outstanding.Nodup
  nonnull : 0 ∉ c.outstanding

theorem sound_empty : empty.Sound := ⟨.nil, by simp [empty]⟩

/-- Handing out an address that is not null keeps the curator sound. -/
theorem Sound.handOut (hc : c.Sound) (ha : a ≠ 0) : (c.handOut a).Sound := by
  refine ⟨List.nodup_cons.2 ⟨by simp, hc.distinct.filter _⟩, fun h => ?_⟩
  rcases mem_handOut.1 h with h | h
  · exact ha h.symm
  · exact hc.nonnull h

/-- Taking one back does too. -/
theorem Sound.takeBack (hc : c.Sound) : (c.takeBack a).2.Sound := by
  refine ⟨?_, fun h => hc.nonnull (mem_takeBack.1 h).1⟩
  unfold Curator.takeBack
  split
  · exact hc.distinct.filter _
  · exact hc.distinct

/-- One more address is outstanding after it was handed out. -/
theorem count_handOut (ha : a ∉ c.outstanding) : (c.handOut a).count = c.count + 1 := by
  have hkeep : c.outstanding.filter (· != a) = c.outstanding :=
    List.filter_eq_self.2 fun b hb => by simpa using fun e : b = a => ha (e ▸ hb)
  simp [handOut, count, hkeep]

/-- Giving back takes one address out, and nothing if it is refused. -/
theorem count_takeBack (hc : c.Sound) :
    (c.takeBack a).2.count + (if (c.takeBack a).1 = .ok then 1 else 0) = c.count := by
  by_cases ha : a ∈ c.outstanding
  · have hpos := List.length_pos_of_mem ha
    rw [if_pos (takeBack_ok_iff.2 ha)]
    simp only [takeBack, List.contains_eq_mem, ha, decide_true, if_true, count]
    rw [← hc.distinct.erase_eq_filter, List.length_erase_of_mem ha]
    omega
  · rw [if_neg fun h => ha (takeBack_ok_iff.1 h)]
    simp [takeBack, ha]

/-- Only what is outstanding can be taken back. -/
theorem takeBack_status : (c.takeBack a).1 =
    if a ∈ c.outstanding then Status.ok else Status.pointerNotFound := by
  by_cases ha : a ∈ c.outstanding <;> simp [takeBack, ha]

end Curator

/-! ## Visits -/

/-- A request with its circumstances: the bridge that is installed at the time, and the address that
the allocator gives if it is asked for memory. -/
structure Visit where
  bridge : Option Bridge
  fresh : Nat
  request : Request

/-- The values that need memory: texts that can be represented and arrays that are not empty. -/
def Shape.occupies : (s : Shape) → s.Value → Bool
  | .number, _ => false
  | .text, s => !Utf8.hasNul s
  | .numbers, ns => !ns.isEmpty

theorem Shape.occupies_number {s : Shape} (hs : s = .number) (value : s.Value) :
    s.occupies value = false := by
  subst hs
  rfl

/-- The bridge has a value for the inquiry, and the value needs memory. -/
def Bridge.supplies (b : Bridge) (i : Inquiry) : Bool :=
  match b.inquire i with
  | .ok value => i.shape.occupies value
  | .error _ => false

theorem Bridge.supplies_number {b : Bridge} {i : Inquiry} (hi : i.shape = .number) :
    b.supplies i = false := by
  unfold Bridge.supplies
  split
  · exact Shape.occupies_number hi _
  · rfl

/-- The address that a plugin finds in its out-pointer. -/
def Written.address? : Written → Option Nat
  | text address _ => some address
  | array address _ => some address
  | _ => none

/-- Handing a value out takes memory iff the value needs some. Then the status is success and the
out-pointer shows the address. -/
theorem deliver_inv (fresh : Nat) (c : Curator) (s : Shape) (value : s.Value) :
    (deliver fresh c s value).2.2 = (if s.occupies value then c.handOut fresh else c) ∧
      (deliver fresh c s value).2.1.address? = (if s.occupies value then some fresh else none) ∧
      (s.occupies value = true → (deliver fresh c s value).1 = .ok) := by
  cases s with
  | number => exact ⟨rfl, rfl, by simp [Shape.occupies]⟩
  | text => by_cases h : Utf8.hasNul value <;> simp [deliver, Shape.occupies, Written.address?, h]
  | numbers => cases value <;> simp [deliver, Shape.occupies, Written.address?]

namespace Visit

variable {v : Visit} {c : Curator} {i : Inquiry}

/-- What comes of a visit. -/
def serving (v : Visit) (c : Curator) : Serving := serve v.bridge v.fresh c v.request

/-- The functions that hand memory out do so if the bridge has a value that needs some and every
out-pointer is there. -/
def handsOut (v : Visit) : Bool :=
  match v.request, v.bridge with
  | .ask (.userName conn user) false _, some b => b.supplies (.userName conn user)
  | .ask (.channelName conn channel) false _, some b => b.supplies (.channelName conn channel)
  | .ask (.allUsers conn) false false, some b => b.supplies (.allUsers conn)
  | .ask (.allChannels conn) false false, some b => b.supplies (.allChannels conn)
  | .ask (.usersInChannel conn channel) false false, some b =>
    b.supplies (.usersInChannel conn channel)
  | _, _ => false

/-- The request was to give memory back, and it was taken. -/
def gaveBack (v : Visit) (s : Serving) : Bool :=
  match v.request with
  | .freeMemory _ => s.status == .ok
  | _ => false

/-- Whether memory is handed out can be read off the question that the request comes to. -/
theorem handsOut_eq (v : Visit) : v.handsOut =
    match v.request.question, v.bridge with
    | .ok (some (.inquiry i)), some b => b.supplies i
    | _, _ => false := by
  obtain ⟨bridge, fresh, request⟩ := v
  cases request with
  | ask i outIsNull countIsNull =>
    -- whoever asks for a number is answered in the out-pointer itself
    cases bridge with
    | none => cases outIsNull <;> cases countIsNull <;> cases i <;> rfl
    | some b =>
      have hnumber (hi : i.shape = .number) := b.supplies_number hi
      cases outIsNull <;> cases countIsNull <;> cases i <;>
        first | rfl | exact (hnumber rfl).symm
  | findUser conn name outIsNull =>
    cases name <;> cases outIsNull <;> cases bridge <;>
      first | rfl | exact (Bridge.supplies_number rfl).symm
  | findChannel conn name outIsNull =>
    cases name <;> cases outIsNull <;> cases bridge <;>
      first | rfl | exact (Bridge.supplies_number rfl).symm
  | setTransmissionMode m => cases hm : m.isKnown <;> simp [handsOut, Request.question, hm]
  | sendData caller conn users data dataId =>
    simp only [handsOut, Request.question]
    cases readArray users <;> cases readArray data <;> cases readText dataId <;> rfl
  | log _ text | playSample _ text => cases text <;> rfl
  | freeMemory | moveUser | overwriteMicrophone => rfl

/-- The cases of a visit. -/
inductive Served (v : Visit) (c : Curator) (s : Serving) : Prop
  /-- Memory was handed out: the out-pointer shows where it lies. -/
  | handedOut (hv : v.handsOut = true) (hr : ∀ a, v.request ≠ .freeMemory a) (hs : s.status = .ok)
      (hw : s.written.address? = some v.fresh) (hc : s.curator = c.handOut v.fresh)
  | returned (a : Nat) (hv : v.handsOut = false) (hr : v.request = .freeMemory a)
      (hs : s.status = (c.takeBack a).1) (hw : s.written.address? = none)
      (hc : s.curator = (c.takeBack a).2)
  /-- The visit was not about memory, or it failed. -/
  | aside (hv : v.handsOut = false) (hr : ∀ a, v.request ≠ .freeMemory a)
      (hw : s.written.address? = none) (hc : s.curator = c)

/-- A missing place for the reply is an error. -/
theorem outPointers_ne_none (i : Inquiry) (outIsNull countIsNull : Bool) :
    (outPointers i outIsNull countIsNull).map some ≠ .ok none := by
  unfold outPointers
  split <;> simp [Except.map]

/-- A request without a question gives memory back. -/
theorem question_eq_none {r : Request} (h : r.question = .ok none) :
    ∃ a, r = .freeMemory a := by
  cases r with
  | freeMemory a => exact ⟨a, rfl⟩
  | ask i outIsNull countIsNull => exact absurd h (outPointers_ne_none i outIsNull countIsNull)
  | moveUser | overwriteMicrophone => cases h
  | _ =>
    simp only [Request.question] at h
    split at h <;> first | cases h | exact absurd h (outPointers_ne_none _ _ _)

/-- **What a visit comes to.** The request is to free memory, or it is turned down, or a question is
put to the bridge. -/
theorem serving_inv (v : Visit) (c : Curator) : v.Served c (v.serving c) := by
  have hout := v.handsOut_eq
  unfold Visit.serving serve
  -- a request is refused over its arguments, gives memory back, or comes to a question
  split
  case h_1 status hq =>
    rw [hq] at hout
    exact .aside hout (fun a ha => by simp [ha, Request.question] at hq) rfl rfl
  case h_2 hq =>
    obtain ⟨a, hr⟩ := question_eq_none hq
    rw [hr]
    rw [hq] at hout
    exact .returned a hout hr rfl rfl rfl
  case h_3 q hq =>
    have hr : ∀ a, v.request ≠ .freeMemory a := fun a ha => by simp [ha, Request.question] at hq
    rw [hq] at hout
    -- from here on the bridge decides
    split
    case h_1 hb =>
      rw [hb] at hout
      exact .aside (by cases q <;> exact hout) hr rfl rfl
    case h_2 b hb =>
      rw [hb] at hout
      split
      case h_1 => exact .aside hout hr rfl rfl
      case h_2 i =>
        simp only [Bridge.supplies] at hout
        split
        case h_1 status hi =>
          rw [hi] at hout
          exact .aside hout hr rfl rfl
        case h_2 value hi =>
          rw [hi] at hout
          obtain ⟨hc, hw, hs⟩ := deliver_inv v.fresh c i.shape value
          by_cases hv : i.shape.occupies value = true
          · rw [if_pos hv] at hc hw
            exact .handedOut (hout.trans hv) hr (hs hv) hw hc
          · rw [if_neg hv] at hc hw
            exact .aside (by simpa [hv] using hout) hr hw hc

/-! ### One address -/

/-- After a visit, an address is outstanding if it was handed out in it, or was before and was not
freed. -/
theorem mem_curator_serving {a : Nat} : a ∈ (v.serving c).curator.outstanding ↔
    (v.handsOut = true ∧ v.fresh = a) ∨ (a ∈ c.outstanding ∧ v.request ≠ .freeMemory a) := by
  cases serving_inv v c with
  | handedOut hv hr hs hw hc => simp [hc, hv, hr a, Curator.mem_handOut, eq_comm]
  | returned b hv hr hs hw hc => simp [hc, hv, hr, Curator.mem_takeBack, eq_comm]
  | aside hv hr hw hc => simp [hc, hv, hr a]

/-- A visit that hands nothing out changes what is held only by giving memory back, and a visit that
fails changes nothing. -/
theorem curator_serving_eq (hs : (v.serving c).status ≠ .ok ∨
    (v.handsOut = false ∧ ∀ a, v.request ≠ .freeMemory a)) : (v.serving c).curator = c := by
  cases serving_inv v c with
  | handedOut hv _ hok _ _ =>
    rcases hs with h | ⟨h, _⟩
    · exact absurd hok h
    · simp [hv] at h
  | returned a _ hr hok _ hc =>
    rcases hs with h | ⟨_, h⟩
    · rw [hok, Curator.takeBack_status] at h
      rw [hc, Curator.takeBack]
      split at h
      · exact absurd rfl h
      · simp [*]
    · exact absurd hr (h a)
  | aside _ _ _ hc => exact hc

/-- Freeing tells whether the address was outstanding. -/
theorem status_freeMemory {a : Nat} (hr : v.request = .freeMemory a) : (v.serving c).status =
    if a ∈ c.outstanding then Status.ok else Status.pointerNotFound := by
  cases serving_inv v c with
  | handedOut _ hne => exact absurd hr (hne a)
  | returned b _ hb hs =>
    obtain rfl : b = a := by simpa [hb] using hr
    rw [hs, Curator.takeBack_status]
  | aside _ hne => exact absurd hr (hne a)

/-- What is handed out is written where the plugin asked for it. -/
theorem serving_handsOut (hv : v.handsOut = true) :
    (v.serving c).status = .ok ∧ (v.serving c).written.address? = some v.fresh := by
  cases serving_inv v c with
  | handedOut _ _ hs hw _ => exact ⟨hs, hw⟩
  | returned _ h => simp [hv] at h
  | aside h => simp [hv] at h

end Visit

/-! ## Many visits -/

/-- What is held after a list of visits. -/
def Curator.after (c : Curator) (vs : List Visit) : Curator :=
  vs.foldl (fun c v => (v.serving c).curator) c

/-- The visits of a list with what came of them. -/
def servings : Curator → List Visit → List (Visit × Serving)
  | _, [] => []
  | c, v :: vs => (v, v.serving c) :: servings (v.serving c).curator vs

/-- Whenever the allocator is asked, the address that it gives is not null and not held. -/
def Fresh : Curator → List Visit → Prop
  | _, [] => True
  | c, v :: vs =>
    (v.handsOut = true → v.fresh ≠ 0 ∧ v.fresh ∉ c.outstanding) ∧ Fresh (v.serving c).curator vs

instance Fresh.decidable : (c : Curator) → (vs : List Visit) → Decidable (Fresh c vs)
  | _, [] => .isTrue trivial
  | c, v :: vs =>
    have := Fresh.decidable (v.serving c).curator vs
    inferInstanceAs (Decidable (_ ∧ _))

variable {c : Curator} {v : Visit} {vs ws pre post : List Visit} {a : Nat}

@[simp] theorem Curator.after_cons : c.after (v :: vs) = (v.serving c).curator.after vs := rfl

theorem Curator.after_append : c.after (vs ++ ws) = (c.after vs).after ws := List.foldl_append

/-- A fresh supply of addresses is fresh for each part of the visits. -/
theorem Fresh.split (h : Fresh c (pre ++ vs)) : Fresh c pre ∧ Fresh (c.after pre) vs := by
  induction pre generalizing c with
  | nil => exact ⟨trivial, h⟩
  | cons v pre ih =>
    obtain ⟨hpre, hvs⟩ := ih h.2
    exact ⟨⟨h.1, hpre⟩, hvs⟩

/-- A visit keeps the curator sound. -/
theorem Curator.Sound.serving (hc : c.Sound) (hf : v.handsOut = true → v.fresh ≠ 0) :
    (v.serving c).curator.Sound := by
  cases v.serving_inv c with
  | handedOut hv _ _ _ h => exact h ▸ hc.handOut (hf hv)
  | returned a _ _ _ _ h => exact h ▸ hc.takeBack
  | aside _ _ _ h => rwa [h]

/-- So does any sequence of visits. -/
theorem Curator.Sound.after (hc : c.Sound) (hf : Fresh c vs) : (c.after vs).Sound := by
  induction vs generalizing c with
  | nil => exact hc
  | cons v vs ih =>
    rw [Curator.after_cons]
    exact ih (hc.serving fun hv => (hf.1 hv).1) hf.2

/-- One visit: what is held, and what was given back, grows by what was handed out. -/
theorem count_serving (hc : c.Sound) (hf : v.handsOut = true → v.fresh ∉ c.outstanding) :
    (v.serving c).curator.count + (if v.gaveBack (v.serving c) then 1 else 0) =
      c.count + (if v.handsOut then 1 else 0) := by
  have hback : v.gaveBack (v.serving c) = true ↔
      ∃ a, v.request = .freeMemory a ∧ (v.serving c).status = .ok := by
    unfold Visit.gaveBack
    split <;> simp_all
  cases v.serving_inv c with
  | handedOut hv hr _ _ h =>
    rw [if_neg fun hb => ?_, if_pos hv, h, Curator.count_handOut (hf hv)]
    obtain ⟨a, ha, _⟩ := hback.1 hb
    exact hr a ha
  | returned a hv hr hs _ h =>
    rw [hv, h, ← Curator.count_takeBack hc (a := a)]
    have : v.gaveBack (v.serving c) = true ↔ (c.takeBack a).1 = .ok := by
      rw [hback, hs]
      exact ⟨fun ⟨_, _, h⟩ => h, fun h => ⟨a, hr, h⟩⟩
    simp [this]
  | aside hv hr _ h =>
    rw [if_neg fun hb => ?_, h, hv]
    · rfl
    · obtain ⟨a, ha, _⟩ := hback.1 hb
      exact hr a ha

/-- **The balance**, by induction on the visits: what is outstanding and what was given back was
outstanding before or handed out. -/
theorem count_after (hc : c.Sound) (hf : Fresh c vs) :
    (c.after vs).count + (servings c vs).countP (fun x => x.1.gaveBack x.2) =
      c.count + vs.countP Visit.handsOut := by
  induction vs generalizing c with
  | nil => rfl
  | cons v vs ih =>
    have hone := count_serving hc fun hv => (hf.1 hv).2
    have hrest := ih (hc.serving fun hv => (hf.1 hv).1) hf.2
    simp only [servings, Curator.after_cons, List.countP_cons] at hrest ⊢
    omega

/-- An address is held iff it was handed out and no request since was to give it back. -/
theorem mem_after : a ∈ (c.after vs).outstanding ↔
    (∃ pre v post, vs = pre ++ v :: post ∧ v.handsOut = true ∧ v.fresh = a ∧
      ∀ w ∈ post, w.request ≠ .freeMemory a) ∨
    (a ∈ c.outstanding ∧ ∀ w ∈ vs, w.request ≠ .freeMemory a) := by
  induction vs generalizing c with
  | nil => simp [Curator.after]
  | cons v vs ih =>
    rw [Curator.after_cons, ih, Visit.mem_curator_serving]
    -- the visit that handed the address out is the first one or comes later
    constructor
    · rintro (⟨pre, w, post, rfl, h⟩ | ⟨⟨hv, ha⟩ | ⟨ha, hr⟩, hvs⟩)
      · exact .inl ⟨v :: pre, w, post, rfl, h⟩
      · exact .inl ⟨[], v, vs, rfl, hv, ha, hvs⟩
      · exact .inr ⟨ha, List.forall_mem_cons.2 ⟨hr, hvs⟩⟩
    · rintro (⟨_ | ⟨u, pre⟩, w, post, heq, hw, ha, hpost⟩ | ⟨ha, hvs⟩)
      · obtain ⟨rfl, rfl⟩ := List.cons.inj heq
        exact .inr ⟨.inl ⟨hw, ha⟩, hpost⟩
      · obtain ⟨rfl, rfl⟩ := List.cons.inj heq
        exact .inl ⟨pre, w, post, rfl, hw, ha, hpost⟩
      · obtain ⟨hr, hvs⟩ := List.forall_mem_cons.1 hvs
        exact .inr ⟨.inr ⟨ha, hr⟩, hvs⟩

/-- What came of a visit, as the memory is accounted for. -/
structure Visit.Accounted (v : Visit) (c : Curator) (s : Serving) : Prop where
  free : ∀ a, v.request = .freeMemory a →
    s.status = (if a ∈ c.outstanding then .ok else .pointerNotFound) ∧
      ∀ b, b ∈ s.curator.outstanding ↔ b ∈ c.outstanding ∧ b ≠ a
  handOut : v.handsOut = true →
    s.status = .ok ∧ s.written.address? = some v.fresh ∧ v.fresh ∉ c.outstanding ∧
      ∀ b, b ∈ s.curator.outstanding ↔ b = v.fresh ∨ b ∈ c.outstanding
  shown : v.handsOut = false → s.written.address? = none
  kept : (s.status ≠ .ok ∨ (v.handsOut = false ∧ ∀ a, v.request ≠ .freeMemory a)) → s.curator = c

/-- A visit is accounted for: what it hands out is new, what it gives back is gone, and all else is
kept. -/
theorem accounted (hf : v.handsOut = true → v.fresh ∉ c.outstanding) :
    v.Accounted c (v.serving c) where
  free a hr := by
    refine ⟨Visit.status_freeMemory hr, fun b => ?_⟩
    have hv : v.handsOut = false := by simp [Visit.handsOut, hr]
    simp [Visit.mem_curator_serving, hv, hr, eq_comm]
  handOut hv := by
    obtain ⟨hs, hw⟩ := Visit.serving_handsOut (c := c) hv
    refine ⟨hs, hw, hf hv, fun b => ?_⟩
    have hr : v.request ≠ .freeMemory b := fun hr => by simp [Visit.handsOut, hr] at hv
    simp [Visit.mem_curator_serving, hv, hr, eq_comm]
  shown hv := by
    cases v.serving_inv c with
    | handedOut h => simp [hv] at h
    | returned _ _ _ _ hw => exact hw
    | aside _ _ hw => exact hw
  kept := Visit.curator_serving_eq

/-- Memory is accounted for whatever is asked, whatever bridges answer and whenever one is put in or
taken out, if the allocator gives no address that is null or held. -/
theorem allocations_balance (hf : Fresh .empty vs) :
    (Curator.empty.after vs).count + (servings .empty vs).countP (fun x => x.1.gaveBack x.2) =
        vs.countP Visit.handsOut ∧
      (Curator.empty.after vs).Sound ∧
      (∀ a, a ∈ (Curator.empty.after vs).outstanding ↔
        ∃ pre v post, vs = pre ++ v :: post ∧ v.handsOut = true ∧ v.fresh = a ∧
          ∀ w ∈ post, w.request ≠ .freeMemory a) ∧
      (∀ pre v post, vs = pre ++ v :: post →
        v.Accounted (Curator.empty.after pre) (v.serving (Curator.empty.after pre))) ∧
      ∀ pre v mid w post, vs = pre ++ v :: (mid ++ w :: post) → v.handsOut = true →
        w.request = .freeMemory v.fresh → (∀ u ∈ mid, u.handsOut = true → u.fresh ≠ v.fresh) →
        ((w.serving (Curator.empty.after (pre ++ v :: mid))).status = .ok ↔
          ∀ u ∈ mid, u.request ≠ .freeMemory v.fresh) := by
  refine ⟨?_, Curator.sound_empty.after hf, fun a => ?_, ?_, ?_⟩
  · simpa [Curator.empty, Curator.count] using count_after Curator.sound_empty hf
  · rw [mem_after]
    simp [Curator.empty]
  · rintro pre v post rfl
    exact accounted fun hv => (hf.split.2.1 hv).2
  · rintro pre v mid w post rfl hv hw hmid
    have hheld : v.fresh ∈ (v.serving (Curator.empty.after pre)).curator.outstanding :=
      Visit.mem_curator_serving.2 (.inl ⟨hv, rfl⟩)
    -- nobody is given the address in between, so whether it is held depends on who gives it back
    have hagain : ¬∃ pre u post, mid = pre ++ u :: post ∧ u.handsOut = true ∧ u.fresh = v.fresh ∧
        ∀ w ∈ post, w.request ≠ .freeMemory v.fresh := by
      rintro ⟨_, u, _, rfl, hu, hfresh, _⟩
      exact hmid u (by simp) hu hfresh
    have hkept : v.fresh ∈ (Curator.empty.after (pre ++ v :: mid)).outstanding ↔
        ∀ u ∈ mid, u.request ≠ .freeMemory v.fresh := by
      rw [Curator.after_append, Curator.after_cons, mem_after]
      simp only [hagain, hheld, true_and, false_or]
    rw [Visit.status_freeMemory hw, ← hkept]
    split <;> simp_all [Status.ok, Status.pointerNotFound]

/-! ## An address that is used again

A name and a list of users are handed out, the name is given back twice, and its address is used
again. A name with a zero character, an empty list and a missing out-pointer come in between. -/

namespace Reuse

def bridge : Bridge where
  inquire
    | .userName .. => .ok "ann"
    | .channelName .. => .ok "a\x00b"
    | .allUsers _ => .ok [1, 2]
    | .allChannels _ => .ok []
    | _ => .error .genericError
  obey _ := .ok

def visits : List Visit :=
  [⟨some bridge, 8, .ask (.userName 1 2) false false⟩,
    ⟨some bridge, 16, .ask (.channelName 1 2) false false⟩,
    ⟨some bridge, 16, .ask (.allUsers 1) false true⟩,
    ⟨some bridge, 16, .ask (.allChannels 1) false false⟩,
    ⟨some bridge, 16, .ask (.allUsers 1) false false⟩,
    ⟨none, 16, .ask (.userName 1 2) false false⟩,
    ⟨none, 16, .freeMemory 8⟩,
    ⟨none, 16, .freeMemory 8⟩,
    ⟨some bridge, 8, .ask (.userName 1 2) false false⟩]

end Reuse

/-- Three addresses are handed out, one of them twice, and one is given back. -/
theorem allocations_balance_reuse : Fresh .empty Reuse.visits ∧
    (Curator.empty.after Reuse.visits).outstanding = [8, 16] ∧
    (servings .empty Reuse.visits).countP (fun x => x.1.gaveBack x.2) = 1 ∧
    Reuse.visits.countP Visit.handsOut = 3 := by
  have hfresh : Fresh .empty Reuse.visits := by decide +kernel
  have hheld : (Curator.empty.after Reuse.visits).outstanding = [8, 16] := by decide +kernel
  have hbalance := (allocations_balance hfresh).1
  have hout : Reuse.visits.countP Visit.handsOut = 3 := by decide +kernel
  rw [Curator.count, hheld, hout] at hbalance
  exact ⟨hfresh, hheld, by simp only [List.length_cons, List.length_nil] at hbalance; omega, hout⟩

end HostTable
end PluginHost
