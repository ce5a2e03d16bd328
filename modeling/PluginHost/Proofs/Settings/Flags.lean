import PluginHost.Proofs.Settings.Setting

/-!
# What a command line can set

* **`Flag.States`**: a value that a flag can state for its setting.
* **`Flags.Proper`** and **`proper_of_parse?`**: all flags that were read state such values.
* **`last?_switch`**: the switch is set iff its flag is given.
* **`last?_toLayer`**: the layer of the command line has the flags, and says that the switch is off
  if it is not given.
-/

namespace PluginHost

open Layers

/-! ## Numbers -/

namespace Number

/-- A number that is read digit by digit does not grow too large for its type. -/
theorem readDigits_lt {cs : List Char} {n m : Nat} (hn : n < 0x10000000000000000)
    (h : readDigits n cs = .ok m) : m < 0x10000000000000000 := by
  induction cs generalizing n with
  | nil =>
    obtain rfl := Except.ok.inj h
    exact hn
  | cons c cs ih =>
    unfold readDigits at h
    split at h
    · simp at h
    · dsimp only at h
      split at h
      · rename_i hlt
        exact ih hlt h
      · simp at h

/-- So a number that is read fits 64 bits. -/
theorem read_lt {s : String} {n : Nat} (h : read s = .ok n) : n < 0x10000000000000000 := by
  unfold read at h
  split at h
  · simp at h
  · simp at h
  · exact readDigits_lt (by decide) h
  · exact readDigits_lt (by decide) h

end Number

/-- A flag's value is one that its setting can have, and no table; the switch is on. -/
def Flag.States (f : Flag) (v : Json) : Prop :=
  ∀ k : Setting, k.name = f.field → (k.read? v).isSome = true ∧ v.isObject = false ∧
    (k = .disablePositionalData → v = .bool true)

/-- What a flag reads from a text is a value that its setting can have. -/
theorem Flag.states_read {f : Flag} {s : String} {v : Json} (hf : f ∈ all)
    (h : f.read? s = some v) : f.States v := by
  intro k hk
  simp only [all, List.mem_cons, List.not_mem_nil, or_false] at hf
  -- each flag has its own setting, and the switch takes no value
  obtain rfl | rfl | rfl | rfl | rfl | rfl | rfl | rfl := hf <;> cases k <;>
    first
    | exact absurd hk (by decide)
    | skip
  · obtain rfl := Option.some.inj h
    exact ⟨rfl, rfl, by simp⟩
  · obtain rfl := Option.some.inj h
    exact ⟨rfl, rfl, by simp⟩
  · obtain rfl := Option.some.inj h
    exact ⟨rfl, rfl, by simp⟩
  · obtain ⟨l, -, rfl⟩ := Option.map_eq_some_iff.1 h
    exact ⟨by simp [Setting.read?, Settings.caseName?, LogFormat.ofText?_text], rfl, by simp⟩
  · obtain ⟨l, -, rfl⟩ := Option.map_eq_some_iff.1 h
    exact ⟨by simp [Setting.read?, Settings.caseName?, LogLevel.ofText?_text], rfl, by simp⟩
  · obtain ⟨n, hn, rfl⟩ := Option.map_eq_some_iff.1 h
    have hlt : n < 0x10000000000000000 := by
      cases hread : Number.read s with
      | error e => simp [hread, Except.toOption] at hn
      | ok m =>
        obtain rfl : m = n := by simpa [hread, Except.toOption] using hn
        exact Number.read_lt hread
    refine ⟨?_, rfl, by simp⟩
    have : (0 : Int) ≤ n ∧ (n : Int) < 0x10000000000000000 := by omega
    simp [Setting.read?, Settings.readWord?, Json.nat, this]
  · simp [Flag.read?] at h

/-- A switch that is set is true. -/
theorem Flag.states_on {f : Flag} (hf : f ∈ all) (hs : f.isSwitch = true) :
    f.States (.bool true) := by
  intro k hk
  have hfield : ∀ f ∈ all, f.isSwitch = true → f.field = Setting.disablePositionalData.name := by
    decide
  obtain rfl : k = .disablePositionalData := Setting.name_injective (hk.trans (hfield f hf hs))
  exact ⟨rfl, rfl, fun _ => rfl⟩

namespace Flags

/-- What the flags set can be read. -/
def Proper (fs : Flags) : Prop := ∀ m ∈ fs.given, m.1 ∈ Flag.all ∧ m.1.States m.2

namespace Proper

variable {fs fs' : Flags} {f : Flag} {v : Json} {x : Flags × List String} {rest : List String}

/-- From here on, one lemma for each way in which flags are read: they stay proper. -/
theorem add? (h : fs.Proper) (hf : f ∈ Flag.all) (hv : f.States v) (ha : fs.add? f v = some fs') :
    fs'.Proper := by
  unfold Flags.add? at ha
  split at ha
  · simp at ha
  · obtain rfl := Option.some.inj ha
    intro m hm
    rcases List.mem_append.1 hm with hm | hm
    · exact h m hm
    · rw [List.mem_singleton.1 hm]
      exact ⟨hf, hv⟩

theorem addText? {s : String} (h : fs.Proper) (hf : f ∈ Flag.all)
    (ha : fs.addText? f s = some fs') : fs'.Proper := by
  obtain ⟨v, hv, ha⟩ := Option.bind_eq_some_iff.1 ha
  exact h.add? hf (Flag.states_read hf hv) ha

theorem addText?_rest {s : String} (h : fs.Proper) (hf : f ∈ Flag.all)
    (ha : (fs.addText? f s).map (·, rest) = some x) : x.1.Proper := by
  obtain ⟨fs', hadd, rfl⟩ := Option.map_eq_some_iff.1 ha
  exact h.addText? hf hadd

theorem takeNext? (h : fs.Proper) (hf : f ∈ Flag.all) (ha : fs.takeNext? f rest = some x) :
    x.1.Proper := by
  unfold Flags.takeNext? at ha
  split at ha
  · simp at ha
  · split at ha
    · exact h.addText?_rest hf ha
    · simp at ha

theorem readLetters? {cs : List Char} (h : fs.Proper)
    (ha : Flags.readLetters? rest fs cs = some x) : x.1.Proper := by
  induction cs generalizing fs with
  | nil =>
    obtain rfl := Option.some.inj ha
    exact h
  | cons c cs ih =>
    unfold Flags.readLetters? at ha
    obtain ⟨f, hshort, ha⟩ := Option.bind_eq_some_iff.1 ha
    have hf : f ∈ Flag.all := List.mem_of_find?_eq_some hshort
    split at ha
    · rename_i hs
      obtain ⟨fs', hadd, ha⟩ := Option.bind_eq_some_iff.1 ha
      exact ih (h.add? hf (Flag.states_on hf hs) hadd) ha
    · split at ha
      · exact h.takeNext? hf ha
      · exact h.addText?_rest hf ha
      · exact h.addText?_rest hf ha

theorem readOne? {arg : String} (h : fs.Proper) (ha : fs.readOne? arg rest = some x) :
    x.1.Proper := by
  unfold Flags.readOne? at ha
  split at ha
  · split at ha
    · obtain rfl := Option.some.inj ha
      exact h
    · simp at ha
  · dsimp only at ha
    obtain ⟨f, hlong, ha⟩ := Option.bind_eq_some_iff.1 ha
    have hf : f ∈ Flag.all := List.mem_of_find?_eq_some hlong
    split at ha
    · exact h.addText?_rest hf ha
    · split at ha
      · rename_i hs
        obtain ⟨fs', hadd, rfl⟩ := Option.map_eq_some_iff.1 ha
        exact h.add? hf (Flag.states_on hf hs) hadd
      · exact h.takeNext? hf ha
  · exact h.readLetters? ha
  · simp at ha

/-- Induction on the fuel, one argument or two for each step. -/
theorem readAll? {fuel : Nat} {args : List String} (h : fs.Proper)
    (ha : Flags.readAll? fuel fs args = some fs') : fs'.Proper := by
  induction fuel generalizing fs args with
  | zero => simp [Flags.readAll?] at ha
  | succ fuel ih =>
    cases args with
    | nil =>
      obtain rfl := Option.some.inj ha
      exact h
    | cons arg rest =>
      obtain ⟨x, hx, ha⟩ := Option.bind_eq_some_iff.1 ha
      exact ih (h.readOne? hx) ha

end Proper

/-- Flags that were read are proper. -/
theorem proper_of_parse? {args : List String} {fs : Flags} (h : parse? args = some fs) :
    fs.Proper :=
  Proper.readAll? (fun _ hm => by simp [empty] at hm) h

end Flags

/-! ## The layer of the command line -/

/-- The members that flags stand for, without the switch that is off. -/
def Flags.members (fs : Flags) : List (String × Json) := fs.given.map fun m => (m.1.field, m.2)

variable {flags : Flags} {k : Setting} {j : Json}

/-- The flag for the switch. -/
def Flag.disable : Flag := ⟨Setting.disablePositionalData.name, some 'd', .switch⟩

/-- The layer of the command line holds the flags that were given, and `false` for the switch if it
was not. -/
theorem toLayer_eq : flags.toLayer = flags.members ++
    if flags.given.any (·.1 == Flag.disable) then [] else [(Flag.disable.field, .bool false)] := by
  have hswitches : Flag.all.filter (·.isSwitch) = [Flag.disable] := by decide
  rw [Flags.toLayer, hswitches, Flags.members, List.filter_cons, List.filter_nil]
  cases flags.given.any (·.1 == Flag.disable) <;> rfl

/-- The switch is set iff its flag is given. -/
theorem Flags.Proper.last?_switch (h : flags.Proper) :
    last? flags.members Setting.disablePositionalData.name =
      if flags.given.any (·.1 == Flag.disable) then some (.bool true) else none := by
  have honly : ∀ f ∈ Flag.all, f.field = Setting.disablePositionalData.name → f = Flag.disable := by
    decide
  split
  · rename_i hgiven
    obtain ⟨m, hm, hswitch⟩ := List.any_eq_true.1 hgiven
    obtain ⟨v, hv⟩ : ∃ v, last? flags.members Setting.disablePositionalData.name = some v := by
      rw [← Option.ne_none_iff_exists', ne_eq, last?_eq_none]
      refine List.ne_nil_of_mem (a := m.2) (mem_values.2 (List.mem_map.2 ⟨m, hm, ?_⟩))
      rw [beq_iff_eq.1 hswitch]
      rfl
    obtain ⟨m', hm', heq⟩ := List.mem_map.1 (mem_of_last? hv)
    obtain ⟨hfield, rfl⟩ := Prod.mk.inj heq
    rw [hv, ((h m' hm').2 _ hfield.symm).2.2 rfl]
  · rename_i hgiven
    rw [last?_eq_none, List.eq_nil_iff_forall_not_mem]
    intro v hv
    obtain ⟨m, hm, heq⟩ := List.mem_map.1 (mem_values.1 hv)
    have hdisable := honly m.1 (h m hm).1 (Prod.mk.inj heq).1
    exact hgiven (List.any_eq_true.2 ⟨m, hm, beq_iff_eq.2 hdisable⟩)

/-- The flags on the command line, and the switch that is off if it is not given. -/
theorem last?_toLayer (h : flags.Proper) : last? flags.toLayer k.name =
    (last? flags.members k.name).or
      (if k = .disablePositionalData then some (.bool false) else none) := by
  rw [toLayer_eq]
  by_cases hk : k = .disablePositionalData
  · subst hk
    rw [last?_append, h.last?_switch]
    split <;> rfl
  · have hne : k.name ≠ Flag.disable.field := fun e => hk (Setting.name_injective e)
    rw [last?_append, if_neg hk, Option.or_none]
    split
    · rfl
    · rw [last?_cons, if_neg hne]
      rfl

/-- What a flag sets can be read, and is no table. -/
theorem Flags.Proper.states (h : flags.Proper) (hj : last? flags.toLayer k.name = some j) :
    (k.read? j).isSome = true ∧ j.isObject = false := by
  rw [last?_toLayer h] at hj
  cases hm : last? flags.members k.name with
  | some v =>
    obtain ⟨m, hmem, heq⟩ := List.mem_map.1 (mem_of_last? hm)
    obtain ⟨hfield, rfl⟩ := Prod.mk.inj heq
    obtain rfl : m.2 = j := by simpa [hm] using hj
    have := (h m hmem).2 k hfield.symm
    exact ⟨this.1, this.2.1⟩
  | none =>
    rw [hm, Option.none_or] at hj
    split at hj
    · rename_i hk
      subst hk
      obtain rfl := Option.some.inj hj
      exact ⟨rfl, rfl⟩
    · simp at hj

end PluginHost
