import Mathlib.Data.List.DropRight
import Mathlib.Tactic.Ring
import PluginHost.Demo
import PluginHost.Proofs.Binary32.Exact

/-!
# The walk of the demo plugin

Every fetch reports the avatar exactly half a metre further along the first axis, and nothing else
changes. The strides are counted in sixteen bits: the avatar that has been fetched 65536 times
without a new start stands where it set out.

* **`Use`**: one use of the plugin's functions. **`Use.restarts`**: those that start the walk again.
* **`strides`**: the fetches since then. **`steps_run`**: what is left of them in the plugin's
  memory.
* **`distance_exact`**: the distance of a count of strides, without rounding.
* **`walk_exact`**: what a fetch reports after any uses, and how long it is half a metre for each
  stride.
* **`walk_returns`**: a walk that is back at its start.
-/

namespace PluginHost
namespace Demo

/-! ## Uses -/

/-- One use of the plugin's functions: a call as this host makes it, or one with a null pointer for
the table of functions or for the list of names. A call that the plugin has no function for does
nothing. -/
inductive Use where
  | call (c : Call)
  | nullTable
  | nullOffer
deriving DecidableEq

/-- The game is among the names: what one of them holds before its zero byte is the game's name. -/
def Among (names : List (List UInt8)) : Prop := ∃ n ∈ names, Utf8.untilNul n = Utf8.encode game

instance (names : List (List UInt8)) : Decidable (Among names) :=
  inferInstanceAs (Decidable (∃ n ∈ names, _))

namespace Use

/-- What the plugin remembers afterwards. -/
def act : Use → State → State
  | call c, s => (answer c s).2
  | nullTable, s => { s with hasTable := false }
  | nullOffer, s => (offer none s).2

/-- The start of the plugin, an offer that it accepts, and the stop. -/
def restarts : Use → Bool
  | call .init => true
  | call (.offerPositional names _) => decide (Among names)
  | call .stopPositional => true
  | _ => false

end Use

/-- What a plugin remembers after some uses since its code was mapped. -/
def run (uses : List Use) : State := uses.foldl (fun s u => u.act s) .initial

/-- The fetches since the walk was last started. -/
def strides (uses : List Use) : Nat :=
  (uses.rtakeWhile fun u => !u.restarts).count (.call .fetchPositional)

/-- What a fetch reports of an avatar that has gone so far. -/
def frame (x : Binary32) : FetchReply :=
  let ahead : Option Vector3 := some ⟨.one, .zero, .zero⟩
  let up : Option Vector3 := some ⟨.zero, .one, .zero⟩
  ⟨⟨some ⟨x, .zero, .zero⟩, ahead, up, some ⟨x, ⟨0x3fc00000⟩, .zero⟩, ahead, up⟩,
    some (Utf8.encode contextText), some (Utf8.encode identityText), true⟩

variable {names : Option (List (List UInt8))} {s : State} {u : Use} {uses : List Use}

/-! ## One use -/

theorem finds_iff {list : List (List UInt8)} : finds list = true ↔ Among list := by
  simp [finds, Among]

/-- An offer is accepted if it has a list with the game in it. -/
theorem offer_ok_iff : (offer names s).1 = .ok ↔ ∃ list, names = some list ∧ Among list := by
  have hcode : (offer names s).1 = .ok ↔ finds (names.getD []) = true := by
    rw [offer]
    split
    case isTrue h => simp [h]
    case isFalse h => simpa [h] using (by decide : OfferCode.temporary ≠ .ok)
  rw [hcode, finds_iff]
  cases names with
  | none => simp [Among]
  | some list => simp

/-- An offer that is accepted starts the walk again. -/
theorem steps_offer {list : List (List UInt8)} :
    (offer (some list) s).2.steps = if Among list then 0 else s.steps := by
  rw [offer, Option.getD_some, if_congr finds_iff rfl rfl]
  split <;> rfl

/-- **One use.** A start, an offer that is accepted and a stop put the walk back to its beginning, a
fetch takes a stride, and nothing else moves the avatar. -/
theorem steps_act (u : Use) (s : State) :
    (u.act s).steps = if u.restarts then 0
      else if u = .call .fetchPositional then s.steps + 1 else s.steps := by
  cases u with
  | nullTable => rfl
  | nullOffer => rfl
  | call c =>
    cases c with
    | offerPositional list pids =>
      show (offer (some list) s).2.steps = _
      simp [steps_offer, Use.restarts]
    | _ => rfl

/-! ## Many uses -/

theorem run_concat (uses : List Use) (u : Use) : run (uses ++ [u]) = u.act (run uses) := by
  simp [run]

/-- The strides after one more use. -/
theorem strides_concat (uses : List Use) (u : Use) :
    strides (uses ++ [u]) = if u.restarts then 0
      else if u = .call .fetchPositional then strides uses + 1 else strides uses := by
  rw [strides, strides, List.rtakeWhile_concat]
  cases u.restarts with
  | true => rfl
  | false =>
    simp only [Bool.not_false, if_true, List.count_append, List.count_singleton, beq_iff_eq,
      Bool.false_eq_true, if_false]
    split <;> rfl

/-- An offer with the game among others starts the walk again, one without a list does not. -/
example : strides [.call .fetchPositional,
    .call (.offerPositional [Utf8.encode "launcher", Utf8.encode game] [1, 2]),
    .call .fetchPositional, .nullOffer, .call .fetchPositional] = 2 := by decide

/-- The plugin remembers the strides but for whole turns of its counter. -/
theorem steps_run (uses : List Use) : (run uses).steps.toNat = strides uses % 65536 := by
  induction uses using List.reverseRecOn with
  | nil => rfl
  | append_singleton uses u ih =>
    rw [run_concat, steps_act, strides_concat]
    split
    · rfl
    · split
      · rw [UInt16.toNat_add, ih]
        show (strides uses % 65536 + 1) % 65536 = (strides uses + 1) % 65536
        omega
      · exact ih

/-- A walk that is only fetched from after its start. -/
theorem strides_replicate (hu : u.restarts = true) (n : Nat) :
    strides (u :: List.replicate n (.call .fetchPositional)) = n := by
  induction n with
  | zero =>
    rw [List.replicate_zero, ← List.nil_append [u], strides_concat, if_pos hu]
  | succ n ih =>
    rw [List.replicate_succ', ← List.cons_append, strides_concat, ih]
    rfl

/-! ## The distance -/

/-- The distance of a count of strides is that of so many halves. -/
theorem distance_exact (k : UInt16) : (distance k).Counts false (k.toNat * 2 ^ 148) := by
  have hk := k.toNat_lt
  have hwhole := Binary32.ofUnits_exact (q := k.toNat * Binary32.unitsOfOne)
    ⟨k.toNat, 149, by omega, by decide, rfl⟩
  have hhalf : Binary32.half.Counts false (2 ^ 148) := ⟨by decide, by decide, by decide +kernel⟩
  rw [distance, ← Int.natCast_mul]
  refine hwhole.mul hhalf ⟨k.toNat, 148, by omega, by decide, rfl⟩ ?_
  rw [Nat.mul_assoc, Nat.mul_assoc, Nat.mul_comm Binary32.unitsOfOne]

/-- Each of the strides that are counted is half a metre. -/
theorem value_distance (k : UInt16) : (distance k).value = k.toNat * (1 / 2) := by
  have hunits : (Binary32.unitsOfOne : ℚ) = 2 ^ 149 := by
    rw [Binary32.unitsOfOne, Nat.pow_eq]
    norm_num
  rw [(distance_exact k).value_eq, hunits]
  push_cast
  ring

/-! ## What a fetch reports -/

/-- A fetch shows the avatar where the strides have taken it. -/
theorem fetch_frame (s : State) : (answer .fetchPositional s).1 = frame (distance s.steps) := rfl

/-- After any uses an offer is accepted iff there is a list of names and one of them is the game's,
and a fetch reports the avatar and the camera so many strides of half a metre along the first axis
as there were fetches since the walk was last started, but for whole turns of 65536 strides;
everything else is always the same. So every stride counts exactly as long as there were fewer of
them. -/
theorem walk_exact (uses : List Use) (names : Option (List (List UInt8))) :
    ((offer names (run uses)).1 = .ok ↔ ∃ list, names = some list ∧ Among list) ∧
    ∃ x : Binary32, (answer .fetchPositional (run uses)).1 = frame x ∧
      x.isFinite = true ∧ x.isNegative = false ∧
      x.value = (strides uses % 65536 : Nat) * (1 / 2) ∧
      (x.value = strides uses * (1 / 2) ↔ strides uses < 65536) := by
  have hvalue : (distance (run uses).steps).value = (strides uses % 65536 : Nat) * (1 / 2) := by
    rw [value_distance, steps_run]
  have hexact := distance_exact (run uses).steps
  refine ⟨offer_ok_iff, _, fetch_frame _, hexact.isFinite, hexact.isNegative, hvalue, ?_⟩
  rw [hvalue, mul_left_inj' (by norm_num), Nat.cast_inj]
  omega

/-- The avatar that takes its 65536th stride is reported at its start. -/
theorem walk_returns :
    let uses : List Use := .call .init :: List.replicate 65536 (.call .fetchPositional)
    strides uses = 65536 ∧ (answer .fetchPositional (run uses)).1 = frame .zero ∧
      Binary32.zero.value ≠ 65536 * (1 / 2) := by
  have hstrides := strides_replicate (u := .call .init) rfl 65536
  have hsteps : (run (.call .init :: List.replicate 65536 (.call .fetchPositional))).steps = 0 :=
    UInt16.toNat_inj.1 (by rw [steps_run, hstrides]; rfl)
  refine ⟨hstrides, ?_, ?_⟩
  · rw [fetch_frame, hsteps]
    exact congrArg frame (by decide +kernel)
  · have hzero : Binary32.zero.units = 0 := by decide
    rw [Binary32.value, hzero]
    norm_num

end Demo
end PluginHost
