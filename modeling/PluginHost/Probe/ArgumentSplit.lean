import PluginHost.Settings.Flags
import PluginHost.Text.Utf8

/-!
# Splitting a command line

The arguments of the probe begin with flags for settings; what follows is the command.
`ArgumentSplit.of` cuts at the first argument that is no such flag. Nothing is lost:
`divide_append` says that both parts together are the arguments that were given.
-/

namespace PluginHost
namespace Probe

/-- What can stand on a command line. It is known by a text. -/
class Argument (α : Type) where
  text : α → String

instance : Argument String := ⟨id⟩

/-- Arguments as the system hands them over need not be well formed. -/
instance : Argument (List UInt8) := ⟨Utf8.decode⟩

/-- A command line in two parts. Each begins with the name of the program, if there is one. -/
structure ArgumentSplit (α : Type) where
  settings : List α
  command : List α
deriving DecidableEq, Repr

namespace ArgumentSplit

variable {α : Type} [Argument α]

/-- For a flag for settings: whether the next argument is its value. A switch takes no value, also
if one is written behind an equals sign. -/
def wantsNext? (arg : α) : Option Bool :=
  let (name, inline) := Flags.splitInline (Argument.text arg).toList
  (Flag.ofLong? name).map fun f => !f.isSwitch && inline.isNone

/-- Flags with their values from the front, and the arguments after them. A flag takes the next
argument as its value whatever that looks like. -/
def divide : List α → List α × List α
  | [] => ([], [])
  | [arg] => if (wantsNext? arg).isSome then ([arg], []) else ([], [arg])
  | arg :: next :: rest =>
    match wantsNext? arg with
    | none => ([], arg :: next :: rest)
    | some false => ((arg :: (divide (next :: rest)).1), (divide (next :: rest)).2)
    | some true => (arg :: next :: (divide rest).1, (divide rest).2)

def of : List α → ArgumentSplit α
  | [] => ⟨[], []⟩
  | program :: args => ⟨program :: (divide args).1, program :: (divide args).2⟩

/-- The two parts together are the arguments. -/
theorem divide_append (args : List α) : (divide args).1 ++ (divide args).2 = args := by
  fun_induction divide args with
  | case1 => rfl
  | case2 => rfl
  | case3 => rfl
  | case4 => rfl
  | case5 arg next rest h ih => simp [ih]
  | case6 arg next rest h ih => simp [ih]

end ArgumentSplit
end Probe
end PluginHost
