/-!
# Symbol tables

What a plugin exports: names with addresses. A name is exported at most once, and never at the null
address.
-/

namespace PluginHost

/-- A labelled table of exported names. `origin` tells where the table comes from. -/
structure SymbolTable where
  origin : String
  entries : List (String × Nat)
deriving DecidableEq, Repr, Inhabited

namespace SymbolTable

def empty (origin : String) : SymbolTable := ⟨origin, []⟩

def erase (t : SymbolTable) (name : String) : SymbolTable :=
  { t with entries := t.entries.filter (·.1 != name) }

/-- Exports `name` at an address in place of any earlier one. The null address exports nothing and
leaves the table as it is. -/
def insert (t : SymbolTable) (name : String) (address : Option Nat) : SymbolTable :=
  match address with
  | none => t
  | some a => { t with entries := (t.erase name).entries ++ [(name, a)] }

def find? (t : SymbolTable) (name : String) : Option Nat :=
  (t.entries.find? (·.1 == name)).map (·.2)

def exports (t : SymbolTable) (name : String) : Bool := (t.find? name).isSome

def size (t : SymbolTable) : Nat := t.entries.length

def isEmpty (t : SymbolTable) : Bool := t.entries.isEmpty

/-- A table that exports the given names. -/
def ofNames (origin : String) (names : List String) : SymbolTable :=
  names.foldl (fun t n => t.insert n (some 1)) (empty origin)

/-! ## Laws -/

/-- A symbol that was taken out is not found. -/
theorem find?_erase_self (t : SymbolTable) (name : String) :
    (t.erase name).find? name = none := by
  simp [find?, erase]

/-- A symbol that was put in is found. -/
theorem find?_insert_self (t : SymbolTable) (name : String) (a : Nat) :
    (t.insert name (some a)).find? name = some a := by
  have h : (t.entries.filter (·.1 != name)).find? (·.1 == name) = none := by simp
  simp [find?, insert, erase, List.find?_append, h]

theorem insert_none (t : SymbolTable) (name : String) : t.insert name none = t := rfl

end SymbolTable

end PluginHost
