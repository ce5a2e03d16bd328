/-!
# JSON values

Documents as the host reads and writes them. Members of an object keep their order; a name may
occur more than once in what was read.

* Whole numbers between `-2^63` and `2^64 - 1` are `int`; every other number is `decimal` and keeps
  its text.
-/

namespace PluginHost

inductive Json where
  | null
  | bool (b : Bool)
  | int (n : Int)
  | decimal (text : String)
  | string (s : String)
  | array (items : List Json)
  | object (members : List (String × Json))
deriving Repr, Inhabited

namespace Json

def nat (n : Nat) : Json := int n

/-- The value, or null if there is none. -/
def option {α : Type} (f : α → Json) : Option α → Json
  | none => null
  | some a => f a

def strings (ss : List String) : Json := array (ss.map string)

/-- Whole numbers that are kept as numbers. -/
def isWide (n : Int) : Bool := -0x8000000000000000 ≤ n && n < 0x10000000000000000

/-! ## Reading members -/

/-- The last member of a name; null for a value without it. -/
def get (j : Json) (name : String) : Json :=
  match j with
  | object ms => ((ms.reverse.find? (·.1 == name)).map (·.2)).getD null
  | _ => null

/-- The object has a member of the name. -/
def has (j : Json) (name : String) : Bool :=
  match j with
  | object ms => ms.any (·.1 == name)
  | _ => false

def isNull : Json → Bool
  | null => true
  | _ => false

def isObject : Json → Bool
  | object _ => true
  | _ => false

def int? : Json → Option Int
  | int n => some n
  | _ => none

def nat? : Json → Option Nat
  | int n => if 0 ≤ n then some n.toNat else none
  | _ => none

def string? : Json → Option String
  | string s => some s
  | _ => none

def bool? : Json → Option Bool
  | bool b => some b
  | _ => none

def array? : Json → Option (List Json)
  | array js => some js
  | _ => none

def asInt (j : Json) : Int := j.int?.getD 0
def asNat (j : Json) : Nat := j.nat?.getD 0
def asString (j : Json) : String := j.string?.getD ""
def asBool (j : Json) : Bool := j.bool?.getD false
def items (j : Json) : List Json := j.array?.getD []

end Json

end PluginHost
