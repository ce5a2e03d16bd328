import PluginHost.Text.Pieces

/-!
# File paths

A path is the text that names a file; `components` is what it means. Slashes separate
components, repeated ones and single dots in the middle count for nothing.
-/

namespace PluginHost

structure Path where
  text : String
deriving DecidableEq, Repr, Inhabited

namespace Path

/-- One step of a path. -/
inductive Component where
  | root
  | here
  | parent
  | name (s : String)
deriving DecidableEq, Repr

/-- The order of steps: the root, a leading dot, the parent, then names by their text. -/
def Component.rank : Component → Nat × String
  | .root => (0, "")
  | .here => (1, "")
  | .parent => (2, "")
  | .name s => (3, s)

def Component.before (a b : Component) : Bool :=
  a.rank.1 < b.rank.1 || (a.rank.1 == b.rank.1 && a.rank.2 < b.rank.2)

/-- The pieces between slashes. -/
def pieces (cs : List Char) : List (List Char) := Pieces.split '/' cs

def isAbsolute (p : Path) : Bool := p.text.toList.head? == some '/'

/-- The component of a piece that is not the first one; empty pieces and dots have none. -/
def Component.ofPiece? (piece : List Char) : Option Component :=
  if piece = [] ∨ piece = ['.'] then none
  else if piece = ['.', '.'] then some .parent
  else some (.name (String.ofList piece))

/-- The steps of a path, from the front. Only a leading dot of a relative path is kept. -/
def components (p : Path) : List Component :=
  let ps := pieces p.text.toList
  let first := if p.isAbsolute then [Component.root]
    else if ps.head? == some ['.'] then [Component.here] else []
  first ++ ps.filterMap Component.ofPiece?

/-- The last component, if it is a name. -/
def fileName? (p : Path) : Option String :=
  match p.components.getLast? with
  | some (.name s) => some s
  | _ => none

/-- The part of the file name after its last point, if something stands before that point. -/
def extension? (p : Path) : Option String :=
  match p.fileName? with
  | none => none
  | some s =>
    let backwards := s.toList.reverse
    let after := backwards.takeWhile (· != '.')
    match backwards.drop after.length with
    | [] => none
    | [_] => none
    | _ => some (String.ofList after.reverse)

/-- Appends a path; an absolute one replaces what was there. -/
def join (p q : Path) : Path :=
  if q.isAbsolute || p.text.isEmpty then q
  else if p.text.toList.getLast? == some '/' then ⟨p.text ++ q.text⟩
  else ⟨p.text ++ "/" ++ q.text⟩

/-- Renders steps as a path. -/
def ofComponents : List Component → Path
  | .root :: rest => ⟨"/" ++ "/".intercalate (rest.map step)⟩
  | cs => ⟨"/".intercalate (cs.map step)⟩
where
  step : Component → String
    | .root => ""
    | .here => "."
    | .parent => ".."
    | .name s => s

/-- The path without its last component; the root and the empty path have no parent. -/
def parent? (p : Path) : Option Path :=
  match p.components with
  | [] => none
  | [.root] => none
  | cs => some (ofComponents cs.dropLast)

/-- Paths are ordered step by step, a path before its extensions. -/
def before (p q : Path) : Bool := go p.components q.components
where
  go : List Component → List Component → Bool
    | [], [] => false
    | [], _ :: _ => true
    | _ :: _, [] => false
    | a :: as, b :: bs => a.before b || (a == b && go as bs)

/-- The extension of plugin libraries. -/
def libraryExtension : String := "so"

/-- The path has the extension of plugin libraries, in ASCII letters of either case. -/
def isPluginLibrary (p : Path) : Bool :=
  match p.extension? with
  | none => false
  | some e => String.ofList (e.toList.map Char.toLower) == libraryExtension

end Path

end PluginHost
