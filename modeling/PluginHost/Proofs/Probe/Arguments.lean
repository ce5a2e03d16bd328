import PluginHost.Probe.ArgumentSplit

/-!
# Which arguments are settings

The front of a command line is as long as flags for settings can make it.

* **`Flag.Named`**, **`Flag.Assigned`**: an argument is a flag, alone or with a value behind an
  equals sign. **`wantsNext?_eq_some`**, **`wantsNext?_eq_none`**: what is read off an argument is
  which of these it is.
* **`Recognised`**: arguments that are flags with their values, in front of others.
* **`divide_recognised`**: a division cuts such a front off. **`divide_recognised_append`**: it
  passes over every such front, so none is longer.
* **`divide_front`**, **`divide_back`**: dividing a part again changes nothing.
* **`split_exact`**: both halves of a command line.
-/

namespace PluginHost

open Probe

variable {α : Type} [Argument α] {a v : α} {args front back : List α} {f : Flag}

/-! ## Flags -/

/-- The argument is the flag without a value. -/
def Flag.Named (f : Flag) (a : α) : Prop := f ∈ Flag.all ∧ Argument.text a = f.long

/-- The argument is the flag with a value behind an equals sign. -/
def Flag.Assigned (f : Flag) (a : α) : Prop :=
  f ∈ Flag.all ∧ ∃ value, Argument.text a = f.long ++ "=" ++ value

namespace Flag

/-- No two flags are written alike. -/
theorem ofLong?_long (hf : f ∈ all) : ofLong? f.long = some f := by
  revert f
  decide

theorem mem_of_ofLong? {name : String} (h : ofLong? name = some f) : f ∈ all ∧ f.long = name :=
  ⟨List.mem_of_find?_eq_some h, by simpa using List.find?_some h⟩

/-- No flag has an equals sign in its name. -/
theorem not_mem_long (hf : f ∈ all) : '=' ∉ f.long.toList := by
  revert f
  decide

end Flag

namespace Flags

/-- Only what stands before an equals sign is the name of a flag. -/
theorem takeWhile_name {cs : List Char} (h : '=' ∉ cs) (rest : List Char) :
    (cs ++ rest).takeWhile (· != '=') = cs ++ rest.takeWhile (· != '=') :=
  List.takeWhile_append_of_pos fun c hc => by simpa using fun e : c = '=' => h (e ▸ hc)

theorem splitInline_of_not_mem {cs : List Char} (h : '=' ∉ cs) :
    splitInline cs = (String.ofList cs, none) := by
  have htake : cs.takeWhile (· != '=') = cs := by simpa using takeWhile_name h []
  simp [splitInline, htake]

/-- A flag is split from its value at the first equals sign. -/
theorem splitInline_append {cs : List Char} (h : '=' ∉ cs) (value : List Char) :
    splitInline (cs ++ '=' :: value) = (String.ofList cs, some (String.ofList value)) := by
  have htake : (cs ++ '=' :: value).takeWhile (· != '=') = cs := by
    simpa using takeWhile_name h ('=' :: value)
  simp [splitInline, htake]

end Flags

namespace Probe
namespace ArgumentSplit

/-! ## Reading one argument -/

/-- A flag by itself takes the next argument, unless it is a switch. -/
theorem wantsNext?_of_named (h : f.Named a) : wantsNext? a = some !f.isSwitch := by
  obtain ⟨hf, htext⟩ := h
  simp [wantsNext?, htext, Flags.splitInline_of_not_mem (Flag.not_mem_long hf),
    Flag.ofLong?_long hf]

/-- A flag with a value takes no other argument. -/
theorem wantsNext?_of_assigned (h : f.Assigned a) : wantsNext? a = some false := by
  obtain ⟨hf, value, htext⟩ := h
  have hsplit := Flags.splitInline_append (Flag.not_mem_long hf) value.toList
  simp [wantsNext?, htext, hsplit, Flag.ofLong?_long hf]

/-- What is read off an argument says that it is a flag, and how it is written. -/
theorem wantsNext?_inv {wants : Bool} (h : wantsNext? a = some wants) :
    ∃ f : Flag, (f.Named a ∧ wants = !f.isSwitch) ∨ (f.Assigned a ∧ wants = false) := by
  unfold wantsNext? at h
  by_cases hmem : '=' ∈ (Argument.text a).toList
  · obtain ⟨name, value, htext, hname⟩ := List.eq_append_cons_of_mem hmem
    rw [htext, Flags.splitInline_append hname] at h
    obtain ⟨f, hf, rfl⟩ := Option.map_eq_some_iff.1 h
    obtain ⟨hall, hlong⟩ := Flag.mem_of_ofLong? hf
    refine ⟨f, .inr ⟨⟨hall, String.ofList value, String.toList_inj.1 ?_⟩, by simp⟩⟩
    simp [htext, hlong]
  · rw [Flags.splitInline_of_not_mem hmem] at h
    obtain ⟨f, hf, rfl⟩ := Option.map_eq_some_iff.1 h
    obtain ⟨hall, hlong⟩ := Flag.mem_of_ofLong? hf
    exact ⟨f, .inl ⟨⟨hall, by simpa using hlong.symm⟩, by simp⟩⟩

/-- An argument of which nothing is read off is no flag. -/
theorem wantsNext?_eq_none :
    wantsNext? a = none ↔ ∀ f : Flag, ¬f.Named a ∧ ¬f.Assigned a := by
  constructor
  · refine fun h f => ⟨fun hf => ?_, fun hf => ?_⟩
    · simp [wantsNext?_of_named hf] at h
    · simp [wantsNext?_of_assigned hf] at h
  · intro h
    cases hw : wantsNext? a with
    | none => rfl
    | some wants =>
      obtain ⟨f, hf | hf⟩ := wantsNext?_inv hw
      · exact absurd hf.1 (h f).1
      · exact absurd hf.1 (h f).2

end ArgumentSplit

/-! ## The front of a command line -/

/-- Arguments that are flags with their values, in front of others. The value of a flag may look
like anything, and a flag whose value is missing counts if nothing comes behind it. -/
inductive Recognised : List α → List α → Prop
  | nil (back : List α) : Recognised [] back
  | switch {f : Flag} {a : α} {front back : List α} (hf : f.Named a) (hs : f.isSwitch = true)
      (h : Recognised front back) : Recognised (a :: front) back
  | assigned {f : Flag} {a : α} {front back : List α} (hf : f.Assigned a)
      (h : Recognised front back) : Recognised (a :: front) back
  | valued {f : Flag} {a : α} {front back : List α} (hf : f.Named a) (hs : f.isSwitch = false)
      (value : α) (h : Recognised front back) : Recognised (a :: value :: front) back
  | last {f : Flag} {a : α} (hf : f.Named a) (hs : f.isSwitch = false) : Recognised [a] []

/-- What is recognised in front of others is recognised alone. -/
theorem Recognised.alone (h : Recognised front back) : Recognised front [] := by
  induction h with
  | nil back => exact .nil []
  | switch hf hs h ih => exact .switch hf hs ih
  | assigned hf h ih => exact .assigned hf ih
  | valued hf hs value h ih => exact .valued hf hs value ih
  | last hf hs => exact .last hf hs

namespace ArgumentSplit

/-- What is cut off is recognised. -/
theorem divide_recognised (args : List α) : Recognised (divide args).1 (divide args).2 := by
  have hone {a : α} {front back : List α} (hw : wantsNext? a = some false)
      (h : Recognised front back) : Recognised (a :: front) back := by
    obtain ⟨f, ⟨hf, hs⟩ | ⟨hf, -⟩⟩ := wantsNext?_inv hw
    · exact .switch hf (by simpa using hs) h
    · exact .assigned hf h
  fun_induction divide args with
  | case1 => exact .nil []
  | case2 a h =>
    obtain ⟨wants, hw⟩ := Option.isSome_iff_exists.1 h
    cases wants with
    | false => exact hone hw (.nil [])
    | true =>
      obtain ⟨f, ⟨hf, hs⟩ | ⟨-, hs⟩⟩ := wantsNext?_inv hw
      · exact .last hf (by simpa using hs)
      · simp at hs
  | case3 a h => exact .nil [a]
  | case4 a next rest h => exact .nil _
  | case5 a next rest h ih => exact hone h ih
  | case6 a next rest h ih =>
    obtain ⟨f, ⟨hf, hs⟩ | ⟨-, hs⟩⟩ := wantsNext?_inv h
    · exact .valued hf (by simpa using hs) next ih
    · simp at hs

/-! ## Dividing -/

theorem divide_of_false (h : wantsNext? a = some false) :
    divide (a :: args) = (a :: (divide args).1, (divide args).2) := by
  cases args <;> simp [divide, h]

theorem divide_of_true (h : wantsNext? a = some true) :
    divide (a :: v :: args) = (a :: v :: (divide args).1, (divide args).2) := by
  simp [divide, h]

/-- A division passes over what is recognised. -/
theorem divide_recognised_append (h : Recognised front back) :
    divide (front ++ back) = (front ++ (divide back).1, (divide back).2) := by
  induction h with
  | nil back => rfl
  | switch hf hs h ih =>
    rw [List.cons_append, divide_of_false (by simp [wantsNext?_of_named hf, hs]), ih]
    rfl
  | assigned hf h ih =>
    rw [List.cons_append, divide_of_false (wantsNext?_of_assigned hf), ih]
    rfl
  | valued hf hs value h ih =>
    rw [List.cons_append, List.cons_append,
      divide_of_true (by simp [wantsNext?_of_named hf, hs]), ih]
    rfl
  | last hf hs => simp [divide, wantsNext?_of_named hf]

/-- The first part has nothing but flags and values in it. -/
theorem divide_front (args : List α) : divide (divide args).1 = ((divide args).1, []) := by
  simpa [divide] using divide_recognised_append (divide_recognised args).alone

/-- The second part does not begin with a flag. -/
theorem divide_back (args : List α) : divide (divide args).2 = ([], (divide args).2) := by
  have h := divide_recognised_append (divide_recognised args)
  rw [divide_append] at h
  exact Prod.ext (List.append_right_eq_self.1 (congrArg Prod.fst h).symm)
    (congrArg Prod.snd h).symm

theorem wantsNext?_eq_none_of_divide (h : (divide (a :: args)).1 = []) : wantsNext? a = none := by
  cases hw : wantsNext? a with
  | none => rfl
  | some wants =>
    cases wants with
    | false => simp [divide_of_false hw] at h
    | true => cases args <;> simp [divide, hw] at h

/-! ## Both halves -/

/-- Both halves begin with the program, and what is behind it are the arguments. The first half has
the longest front of flags with their values that there is, so the second half does not begin with a
flag. Splitting a half again gives that half, and nothing for the other. -/
theorem split_exact :
    of ([] : List α) = ⟨[], []⟩ ∧
    ∀ (program : α) (rest : List α), ∃ front back,
      of (program :: rest) = ⟨program :: front, program :: back⟩ ∧
      front ++ back = rest ∧
      Recognised front back ∧
      (∀ front' back', front' ++ back' = rest → Recognised front' back' → front' <+: front) ∧
      (∀ a ∈ back.head?, ∀ f : Flag, ¬f.Named a ∧ ¬f.Assigned a) ∧
      of (program :: front) = ⟨program :: front, [program]⟩ ∧
      of (program :: back) = ⟨[program], program :: back⟩ := by
  refine ⟨rfl, fun program rest => ⟨(divide rest).1, (divide rest).2, rfl, divide_append rest,
    divide_recognised rest, ?_, ?_, ?_, ?_⟩⟩
  · rintro front' back' rfl h
    rw [divide_recognised_append h]
    exact List.prefix_append _ _
  · intro a ha
    have hback := divide_back rest
    obtain ⟨args, hargs⟩ := List.head?_eq_some_iff.1 ha
    rw [hargs] at hback
    exact wantsNext?_eq_none.1 (wantsNext?_eq_none_of_divide (congrArg Prod.fst hback))
  · simp [of, divide_front]
  · simp [of, divide_back]

/-- The value of a flag is one also if it looks like a flag or like a command. -/
example :
    of ["probe", "--log-filter", "--log-format", "--log-format=json", "watch", "--log-filter"] =
    ⟨["probe", "--log-filter", "--log-format", "--log-format=json"],
      ["probe", "watch", "--log-filter"]⟩ := by decide

end ArgumentSplit
end Probe
end PluginHost
