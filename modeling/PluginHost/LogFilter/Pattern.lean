import PluginHost.Json.Parser
import PluginHost.Text.Alphanumeric
import PluginHost.Text.Blank

/-!
# Patterns

The value of a field may be a regular expression; `Pattern.isWellFormed` says which texts are one.

What a pattern matches is never asked for: a directive with a value decides no event by itself.
Reading a pattern therefore keeps only what later characters depend on, which are flags, names of
groups and how deep its parts are nested.

A pattern matches whole characters. With the flag `u`, which is set at first, it may name any
character but no class that only the Unicode character database knows, such as digits or letters of
any case. Without the flag it may name octets, and then only those that are a character by
themselves.
-/

namespace PluginHost
namespace LogFilter
namespace Pattern

/-! ## Flags -/

/-- How the characters that follow are read: in any letter case (`i`), with blanks and remarks
between them (`x`), as characters rather than octets (`u`). -/
structure Flags where
  anyCase : Bool := false
  spaced : Bool := false
  wide : Bool := true
deriving DecidableEq, Repr

/-- Passes over blanks and remarks; a remark goes from a number sign to the end of its line. -/
def skipBlanks (inRemark : Bool) : List Char → List Char
  | [] => []
  | c :: cs =>
    if inRemark then skipBlanks (c != '\n') cs
    else if c = '#' then skipBlanks true cs
    else if Blank.isBlank c then skipBlanks false cs
    else c :: cs

namespace Flags

/-- What counts next. -/
def next (f : Flags) (cs : List Char) : List Char := if f.spaced then skipBlanks false cs else cs

/-- What a hyphen is judged by: the character behind it, past blanks and one number sign. -/
def behindHyphen (f : Flags) (cs : List Char) : Option Char :=
  if !f.spaced then cs.head?
  else match cs.dropWhile Blank.isBlank with
    | '#' :: rest => (rest.dropWhile Blank.isBlank).head?
    | rest => rest.head?

/-- The letters of flags: each at most once, and behind a hyphen those that are taken back. -/
def areLetters (cs : List Char) : Bool :=
  cs.all "imsUuRx-".toList.contains && decide cs.Nodup && cs.getLast? != some '-'

/-- Sets flags and takes back flags. -/
def change (f : Flags) (letters : List Char) : Flags :=
  let on := letters.takeWhile (· != '-')
  let value (letter : Char) (old : Bool) :=
    on.contains letter || (old && !letters.contains letter)
  ⟨value 'i' f.anyCase, value 'x' f.spaced, value 'u' f.wide⟩

/-- A character may stand for itself. One that is written as an octet is whole only in ASCII. -/
def allows (f : Flags) (c : Char) (octet : Bool) : Bool :=
  if f.wide then !f.anyCase else !octet || c.toNat < 0x80

/-- A character may be a member of a set. -/
def allowsMember (f : Flags) (c : Char) : Bool :=
  if f.wide then !f.anyCase else c.toNat < 0x80

/-- A set may be all but its members. In octets that always splits characters; in any letter case it
must not be a member of another set. -/
def allowsNegation (f : Flags) (inner : Bool) : Bool := f.wide && !(inner && f.anyCase)

end Flags

/-! ## Items -/

/-- What stands for one place in the matched text. -/
inductive Item where
  /-- A character, perhaps written as an octet. -/
  | literal (c : Char) (octet : Bool)
  /-- A set of characters. -/
  | set
  /-- A place between characters. -/
  | place
deriving DecidableEq, Repr

/-- Reads hexadecimal digits behind those that make up `n`, as many as are asked for. -/
def readHex? (f : Flags) : Nat → Nat → List Char → Option (Char × List Char)
  | 0, n, cs => if n.isValidChar then some (Char.ofNat n, cs) else none
  | digits + 1, n, cs =>
    match f.next cs with
    | [] => none
    | c :: rest => (Json.hexValue? c).bind fun d => readHex? f digits (n * 16 + d) rest

/-- Control characters that are written with a letter. -/
def controls : List (Char × Char) :=
  [('a', '\x07'), ('f', '\x0c'), ('t', '\t'), ('n', '\n'), ('r', '\x0d'), ('v', '\x0b')]

/-- Reads what is behind a backslash. -/
def readEscape? (f : Flags) : List Char → Option (Item × List Char)
  | [] => none
  | c :: rest =>
    if c = 'x' then (readHex? f 2 0 rest).map fun (c, rest) => (.literal c true, rest)
    else if c = 'u' then (readHex? f 4 0 rest).map fun (c, rest) => (.literal c false, rest)
    else if c = 'U' then (readHex? f 8 0 rest).map fun (c, rest) => (.literal c false, rest)
    else if "dsw".toList.contains c then if f.wide then none else some (.set, rest)
    else if "bB<>".toList.contains c then if f.wide then none else some (.place, rest)
    else if "Az".toList.contains c then some (.place, rest)
    else match controls.lookup c with
      | some control => some (.literal control false, rest)
      | none =>
        if c.toNat < 0x80 && !c.isAlphanum then some (.literal c false, rest) else none

/-- Reads an item. -/
def readItem? (f : Flags) : List Char → Option (Item × List Char)
  | [] => none
  | '\\' :: rest => readEscape? f rest
  | c :: rest => some (.literal c false, rest)

/-! ## Depth -/

/-- Parts side by side: how many there are and how deep the deepest one goes. -/
structure Row where
  size : Nat := 0
  deepest : Nat := 0
deriving DecidableEq, Repr

namespace Row

def add (r : Row) (depth : Nat) : Row := ⟨r.size + 1, max r.deepest depth⟩

/-- Several parts are a part of their own, a single one is not. -/
def depth (r : Row) : Nat := if r.size ≤ 1 then r.deepest else r.deepest + 1

end Row

/-- How deep the parts of a pattern may be nested. -/
def maxDepth : Nat := 250

/-! ## Sets -/

/-- A set between brackets, as far as it has been read. -/
structure Bracket where
  negated : Bool
  /-- Nothing has been read but hyphens. -/
  fresh : Bool := true
  /-- How deep all goes that is left of the last operator. -/
  left : Option Nat := none
  members : Row := {}
deriving DecidableEq, Repr

namespace Bracket

/-- Opens a set. -/
def ofOpening (f : Flags) (cs : List Char) : Bracket × List Char :=
  match f.next cs with
  | '^' :: rest => ({ negated := true }, rest)
  | rest => ({ negated := false }, rest)

def add (b : Bracket) (depth : Nat) : Bracket :=
  { b with fresh := false, members := b.members.add depth }

def depth (b : Bracket) : Nat :=
  match b.left with
  | none => b.members.depth
  | some d => max d b.members.depth + 1

/-- Takes all so far as the left side of an operator. -/
def operate (b : Bracket) : Bracket :=
  { b with fresh := false, left := some b.depth, members := {} }

end Bracket

/-- The classes that have a name. -/
def classNames : List String :=
  ["alnum", "alpha", "ascii", "blank", "cntrl", "digit", "graph", "lower", "print", "punct",
    "space", "upper", "word", "xdigit"]

/-- Reads a class by its name, as in `[:alpha:]` or `[:^alpha:]`, behind the bracket. Returns
whether it is negated. -/
def readClass? : List Char → Option (Bool × List Char)
  | ':' :: cs =>
    let (negated, cs) := match cs with
      | '^' :: rest => (true, rest)
      | _ => (false, cs)
    let name := cs.takeWhile (· != ':')
    match cs.drop name.length with
    | ':' :: ']' :: rest =>
      if classNames.contains (String.ofList name) then some (negated, rest) else none
    | _ => none
  | _ => none

/-- Reads a member of a set: an item or a range. -/
def readMember? (f : Flags) (cs : List Char) : Option (List Char) :=
  (readItem? f cs).bind fun (first, rest) =>
    let single : Option (List Char) :=
      match first with
      | .literal c _ => if f.allowsMember c then some rest else none
      | .set => some rest
      | .place => none
    match f.next rest with
    | '-' :: more =>
      if [some ']', some '-'].contains (f.behindHyphen more) then single
      else (readItem? f (f.next more)).bind fun (last, rest) =>
        match first, last with
        | .literal a _, .literal b _ =>
          if a ≤ b && f.allowsMember a && f.allowsMember b then some rest else none
        | _, _ => none
    | _ => single

/-! ## Groups -/

/-- What is read on one level: alternatives, the last of them in parts. -/
structure Scope where
  flags : Flags := {}
  choices : Row := {}
  parts : Row := {}
  /-- How deep the part goes that may be repeated next. -/
  last : Option Nat := none
deriving DecidableEq, Repr

namespace Scope

def add (s : Scope) (depth : Nat) : Scope :=
  { s with parts := s.parts.add depth, last := some depth }

/-- Repeats the last part, which goes so deep. -/
def repeatLast (s : Scope) (depth : Nat) : Scope :=
  { s with
    parts := ⟨s.parts.size, max s.parts.deepest (depth + 1)⟩
    last := some (depth + 1) }

/-- Starts another alternative. -/
def alternate (s : Scope) : Scope :=
  { s with choices := s.choices.add s.parts.depth, parts := {}, last := none }

/-- Changes flags up to the end of the level. That is a part which cannot be repeated. -/
def setFlags (s : Scope) (f : Flags) : Scope :=
  { s with flags := f, parts := s.parts.add 0, last := none }

def depth (s : Scope) : Nat := (s.choices.add s.parts.depth).depth

end Scope

/-- How far a pattern has been read: the level, the levels around it, the sets that are open and the
names of groups. -/
structure Progress where
  scope : Scope := {}
  outer : List Scope := []
  brackets : List Bracket := []
  names : List String := []
deriving DecidableEq, Repr

namespace Progress

/-- A part of the level. -/
def add (p : Progress) (depth : Nat) : Progress := { p with scope := p.scope.add depth }

/-- Enters a group. -/
def enter (p : Progress) (f : Flags) : Progress :=
  { p with scope := { flags := f }, outer := p.scope :: p.outer }

/-- Leaves a group, unless there is none. -/
def leave? (p : Progress) : Option Progress :=
  match p.outer with
  | [] => none
  | s :: outer => some { p with scope := s.add (p.scope.depth + 1), outer := outer }

/-- Names of groups begin with a letter or an underscore. -/
def isName (cs : List Char) : Bool :=
  cs.head?.any (fun c => c = '_' || Alphanumeric.isAlphabetic c) &&
    cs.all fun c => "_.[]".toList.contains c || Alphanumeric.isAlphanumeric c

/-- Reads the name of a group, up to an angle bracket. -/
def enterNamed? (p : Progress) (cs : List Char) : Option (Progress × List Char) :=
  let name := cs.takeWhile (· != '>')
  let text := String.ofList name
  match cs.drop name.length with
  | _ :: rest =>
    if isName name && !p.names.contains text then
      some ({ p.enter p.scope.flags with names := text :: p.names }, rest)
    else none
  | [] => none

/-- Reads what is behind a round bracket. Flags alone hold up to the end of the level, flags before
a colon for the group. -/
def openGroup? (p : Progress) (cs : List Char) : Option (Progress × List Char) :=
  match cs with
  | '?' :: 'P' :: '<' :: rest => p.enterNamed? rest
  | '?' :: '<' :: rest => p.enterNamed? rest
  | '?' :: rest =>
    let letters := rest.takeWhile fun c => c != ':' && c != ')'
    let f := p.scope.flags.change letters
    if !Flags.areLetters letters then none
    else match rest.drop letters.length with
      | ':' :: rest => some (p.enter f, rest)
      | _ :: rest =>
        if letters.isEmpty then none else some ({ p with scope := p.scope.setFlags f }, rest)
      | [] => none
  | _ => some (p.enter p.scope.flags, cs)

/-- Takes a character outside of sets, and what belongs to it. -/
def stepOutside? (p : Progress) (c : Char) (rest : List Char) : Option (Progress × List Char) :=
  let f := p.scope.flags
  match c with
  | '(' => p.openGroup? (f.next rest)
  | ')' => p.leave?.map (·, rest)
  | '|' => some ({ p with scope := p.scope.alternate }, rest)
  | '[' =>
    let (b, rest) := Bracket.ofOpening f rest
    some ({ p with brackets := [b] }, rest)
  | '?' | '*' | '+' =>
    p.scope.last.map fun depth =>
      ({ p with scope := p.scope.repeatLast depth },
        if rest.head? = some '?' then rest.tail else rest)
  | '\x7b' => none
  | '.' => if f.wide then some (p.add 0, rest) else none
  | '^' | '$' => some (p.add 0, rest)
  | _ =>
    (readItem? f (c :: rest)).bind fun (item, rest) =>
      match item with
      | .literal c octet => if f.allows c octet then some (p.add 0, rest) else none
      | _ => some (p.add 0, rest)

/-- Closes a set, which is a member of the set around it if there is one. -/
def closeSet? (p : Progress) (b : Bracket) (outer : List Bracket) : Option Progress :=
  if b.negated && !p.scope.flags.allowsNegation (!outer.isEmpty) then none
  else match outer with
    | [] => some { p.add (b.depth + 1) with brackets := [] }
    | o :: outer => some { p with brackets := o.add (b.depth + 1) :: outer }

/-- Takes a character within a set, and what belongs to it. Hyphens at the front of a set are
members, and so is a closing bracket that comes first of all. In a set there are classes by name and
operators of two like signs. -/
def stepInside? (p : Progress) (b : Bracket) (outer : List Bracket) (c : Char) (rest : List Char) :
    Option (Progress × List Char) :=
  let f := p.scope.flags
  let continued (b : Bracket) : Progress := { p with brackets := b :: outer }
  if b.fresh && (c = '-' || (c = ']' && b.members.size = 0)) then
    if f.allowsMember c then some (continued { b.add 0 with fresh := c = '-' }, rest) else none
  else if c = '[' then
    match readClass? rest with
    | some (negated, rest) =>
      if f.allowsMember 'a' && (f.wide || !negated) then some (continued (b.add 0), rest) else none
    | none =>
      let (inner, rest) := Bracket.ofOpening f rest
      some ({ p with brackets := inner :: b :: outer }, rest)
  else if c = ']' then (p.closeSet? b outer).map (·, rest)
  else if "&-~".toList.contains c && rest.head? = some c then some (continued b.operate, rest.tail)
  else (readMember? f (c :: rest)).map fun rest => (continued (b.add 0), rest)

/-- Takes a character, and what belongs to it. -/
def step? (p : Progress) (c : Char) (rest : List Char) : Option (Progress × List Char) :=
  match p.brackets with
  | [] => p.stepOutside? c rest
  | b :: outer => p.stepInside? b outer c rest

/-- Takes all characters. Each step takes one at least, so that as many steps as there are
characters are enough. -/
def scan? : Nat → Progress → List Char → Option Progress
  | steps, p, cs =>
    match p.scope.flags.next cs, steps with
    | [], _ => some p
    | _, 0 => none
    | c :: rest, steps + 1 => (p.step? c rest).bind fun (p, rest) => scan? steps p rest

/-- A pattern may end here. -/
def isComplete (p : Progress) : Bool :=
  p.outer.isEmpty && p.brackets.isEmpty && p.scope.depth ≤ maxDepth

end Progress

/-- The text is a pattern. -/
def isWellFormed (cs : List Char) : Bool := (Progress.scan? cs.length {} cs).any (·.isComplete)

end Pattern
end LogFilter
end PluginHost
