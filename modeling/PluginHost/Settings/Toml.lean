import PluginHost.Json.Parser
import PluginHost.Text.Number
import PluginHost.Text.Reader

/-!
# Reading TOML

`Toml.parse?` reads a document of tables and keys as an object. It refuses what the format refuses:
keys that are set twice, tables that are opened twice, and values that are added to a closed table.

* `Edition` says which edition of the format is read; the second one allows more.
* The readers take characters from the front of what is left.
* `Entries` is a table under construction; `Entries.open?` and `Entries.put?` say what may be added.
-/

namespace PluginHost
namespace Toml

/-- What an edition of the format allows. -/
structure Edition where
  /-- Escapes by `\e` and `\x`, tables in braces over several lines and with a comma at the end, and
  times without seconds. -/
  relaxed : Bool
  /-- How deep values nest at most, and how many names a dotted key has at most. -/
  depth : Nat
deriving DecidableEq, Repr

namespace Edition

def first : Edition := ⟨false, 79⟩

def second : Edition := ⟨true, 80⟩

end Edition

/-! ## Characters -/

open Reader

def isSpace (c : Char) : Bool := c = ' ' || c = '\t'

def skipSpaces : Reader Unit := do let _ ← takeWhile isSpace

/-- Characters that may stand in comments and strings. -/
def isPlain (c : Char) : Bool := c = '\t' || (0x20 ≤ c.toNat && c.toNat != 0x7F)

/-- Takes a line break, if there is one. -/
def tryNewline : Reader Bool := do
  if ← tryWord "\n" then return true else tryWord "\r\n"

def skipComment : Reader Unit := do
  if ← tryWord "#" then
    let _ ← takeWhile isPlain

/-- Spaces, comments and line breaks. -/
def skipBlankLinesFrom : Nat → Reader Unit
  | 0 => return ()
  | fuel + 1 => do
    skipSpaces
    skipComment
    if ← tryNewline then skipBlankLinesFrom fuel

def skipBlankLines : Reader Unit := do skipBlankLinesFrom ((← remaining) + 1)

/-- What may stand around the members of a table in braces. -/
def skipGap (ed : Edition) : Reader Unit := if ed.relaxed then skipBlankLines else skipSpaces

/-- The rest of a line after its last item. -/
def endLine : Reader Unit := do
  skipSpaces
  skipComment
  if (← get).isEmpty then return ()
  if ← tryNewline then return () else failure

/-! ## Strings -/

/-- A code point of a count of hexadecimal digits. -/
def codePoint (digits : Nat) : Reader Char := do
  let cs ← get
  let front := cs.take digits
  let some values := front.mapM Json.hexValue? | failure
  let n := values.foldl (fun n d => n * 16 + d) 0
  if front.length = digits ∧ (n < 0xD800 ∨ (0xDFFF < n ∧ n ≤ 0x10FFFF)) then
    set (cs.drop digits)
    return Char.ofNat n
  else failure

/-- The character of an escape after its backslash. -/
def escaped (ed : Edition) : Reader Char := do
  let c :: rest ← get | failure
  set rest
  match c with
  | 'b' => return '\x08'
  | 't' => return '\t'
  | 'n' => return '\n'
  | 'f' => return '\x0c'
  | 'r' => return '\r'
  | '"' => return '"'
  | '\\' => return '\\'
  | 'u' => codePoint 4
  | 'U' => codePoint 8
  | 'e' => if ed.relaxed then return '\x1b' else failure
  | 'x' => if ed.relaxed then codePoint 2 else failure
  | _ => failure

/-- A string in double quotes after the opening one, most recent character first. -/
def basicFrom (ed : Edition) : Nat → List Char → Reader String
  | 0, _ => failure
  | fuel + 1, read => do
    let c :: rest ← get | failure
    set rest
    if c = '"' then return String.ofList read.reverse
    else if c = '\\' then basicFrom ed fuel ((← escaped ed) :: read)
    else if isPlain c then basicFrom ed fuel (c :: read)
    else failure

def basicString (ed : Edition) : Reader String := do basicFrom ed ((← remaining) + 1) []

def literalString : Reader String := do
  let front ← takeWhile fun c => isPlain c && c != '\''
  expect '\''
  return String.ofList front

/-- Up to two quotes may stand before the three that end a string of several lines. -/
def closing (quote : Char) (read : List Char) : Reader (Option String) := do
  let three := [quote, quote, quote]
  let cs ← get
  let quotes := (cs.takeWhile (· == quote)).length
  if quotes < 3 then return none
  else if 5 < quotes then failure
  else
    set (cs.drop quotes)
    return some (String.ofList (three.take (quotes - 3) ++ read).reverse)

/-- A backslash at the end of a line swallows the blanks up to the next text. -/
def trimsLine : Reader Bool := do
  let cs ← get
  let after := cs.dropWhile isSpace
  match after with
  | '\n' :: rest => set (rest.dropWhile fun c => isSpace c || c = '\n' || c = '\r'); return true
  | '\r' :: '\n' :: rest =>
    set (rest.dropWhile fun c => isSpace c || c = '\n' || c = '\r')
    return true
  | _ => return false

/-- A string of several lines after its opening quotes, with escapes or without. -/
def multilineFrom (ed : Edition) (quote : Char) (escapes : Bool) : Nat → List Char → Reader String
  | 0, _ => failure
  | fuel + 1, read => do
    match ← closing quote read with
    | some s => return s
    | none =>
      if ← tryNewline then multilineFrom ed quote escapes fuel ('\n' :: read)
      else
        let c :: rest ← get | failure
        set rest
        if escapes ∧ c = '\\' then
          if ← trimsLine then multilineFrom ed quote escapes fuel read
          else multilineFrom ed quote escapes fuel ((← escaped ed) :: read)
        else if isPlain c then multilineFrom ed quote escapes fuel (c :: read)
        else failure

/-- A line break right after the opening quotes does not belong to the string. -/
def multilineString (ed : Edition) (quote : Char) (escapes : Bool) : Reader String := do
  let _ ← tryNewline
  multilineFrom ed quote escapes ((← remaining) + 1) []

/-! ## Keys -/

def isBareKey (c : Char) : Bool := c.isAlphanum || c = '_' || c = '-'

def simpleKey (ed : Edition) : Reader String := do
  if ← tryWord "\"" then basicString ed
  else if ← tryWord "'" then literalString
  else
    let front ← takeWhile isBareKey
    if front.isEmpty then failure else return String.ofList front

/-- Keys joined by points. -/
def dottedKeyFrom (ed : Edition) : Nat → Reader (List String)
  | 0 => failure
  | fuel + 1 => do
    skipSpaces
    let k ← simpleKey ed
    skipSpaces
    if ← tryWord "." then return k :: (← dottedKeyFrom ed fuel) else return [k]

def dottedKey (ed : Edition) : Reader (List String) := do
  let names ← dottedKeyFrom ed ((← remaining) + 1)
  if names.length ≤ ed.depth then return names else failure

/-! ## Numbers and dates -/

/-- Digits with single underscores between them, without the underscores. -/
def groupedDigits? (isDigit : Char → Bool) (cs : List Char) : Option (List Char) :=
  let groups := String.ofList cs |>.splitOn "_"
  if groups.all fun g => !g.isEmpty && g.toList.all isDigit then
    some (groups.flatMap String.toList)
  else none

/-- A whole number of 64 bits. -/
def word? (n : Int) : Option Json :=
  if -0x8000000000000000 ≤ n ∧ n < 0x8000000000000000 then some (.int n) else none

def valueIn (base : Nat) (ds : List Char) : Nat :=
  ds.foldl (fun n c => n * base + (Json.hexValue? c).getD 0) 0

def radix? (base : Nat) (isDigit : Char → Bool) (cs : List Char) : Option Json := do
  let ds ← groupedDigits? isDigit cs
  word? (valueIn base ds)

/-- Digits before the point: no leading zeros. -/
def decimal? (cs : List Char) : Option (List Char) := do
  let ds ← groupedDigits? Char.isDigit cs
  if ds.length = 1 ∨ ds.head? ≠ some '0' then some ds else none

/-- Splits at the first of some characters. -/
def cutAt (p : Char → Bool) (cs : List Char) : List Char × Option (List Char) :=
  let front := cs.takeWhile (!p ·)
  (front, (cs.drop front.length).tail?)

/-- A whole number after its sign. -/
def signed? (cs : List Char) : Option Int :=
  match cs with
  | '-' :: ds => (groupedDigits? Char.isDigit ds).map fun ds => -(valueIn 10 ds : Int)
  | '+' :: ds => (groupedDigits? Char.isDigit ds).map fun ds => (valueIn 10 ds : Int)
  | ds => (groupedDigits? Char.isDigit ds).map fun ds => (valueIn 10 ds : Int)

/-- A number with a point or an exponent; its text is kept. One that is beyond all numbers is
refused. -/
def float? (negative : Bool) (cs : List Char) : Option Json := do
  let (mantissa, exponent) := cutAt (fun c => c = 'e' || c = 'E') cs
  let (whole, fraction) := cutAt (· = '.') mantissa
  let w ← decimal? whole
  let f ← match fraction with
    | some ds => groupedDigits? Char.isDigit ds
    | none => some []
  let e ← match exponent with
    | some cs => signed? cs
    | none => some 0
  if fraction.isNone && exponent.isNone then none
  else if Number.isBeyondAll (valueIn 10 (w ++ f)) (e - f.length) then none
  else
    let point := if fraction.isSome then '.' :: f else []
    let power := if exponent.isSome then 'e' :: (toString e).toList else []
    some (.decimal (String.ofList ((if negative then ['-'] else []) ++ w ++ point ++ power)))

/-- A number after its sign. What is no finite number is null. -/
def unsigned? (negative : Bool) (cs : List Char) : Option Json :=
  let s := String.ofList cs
  if s == "inf" || s == "nan" then some .null
  else match decimal? cs with
    | some ds => word? (if negative then -(valueIn 10 ds : Int) else valueIn 10 ds)
    | none => float? negative cs

def number? (cs : List Char) : Option Json :=
  match cs with
  | '0' :: 'x' :: ds => radix? 16 (fun c => (Json.hexValue? c).isSome) ds
  | '0' :: 'o' :: ds => radix? 8 (fun c => '0' ≤ c && c ≤ '7') ds
  | '0' :: 'b' :: ds => radix? 2 (fun c => c = '0' || c = '1') ds
  | '+' :: ds => unsigned? false ds
  | '-' :: ds => unsigned? true ds
  | ds => unsigned? false ds

/-- A number of exactly `digits` digits between two bounds. -/
def field? (digits low high : Nat) (cs : List Char) : Option (List Char) :=
  let ds := cs.take digits
  let n := valueIn 10 ds
  if ds.length = digits ∧ ds.all Char.isDigit ∧ low ≤ n ∧ n ≤ high then some (cs.drop digits)
  else none

def mark? (c : Char) (cs : List Char) : Option (List Char) :=
  match cs with
  | d :: rest => if c = d then some rest else none
  | [] => none

/-- The days of a month; a year of 366 days is divisible by four, but not by a hundred unless by
four hundred. -/
def daysIn (year month : Nat) : Nat :=
  if month = 2 then
    if year % 4 = 0 ∧ (year % 100 ≠ 0 ∨ year % 400 = 0) then 29 else 28
  else if month = 4 ∨ month = 6 ∨ month = 9 ∨ month = 11 then 30
  else 31

def date? (cs : List Char) : Option (List Char) := do
  let rest ← (field? 4 0 9999 cs).bind (mark? '-')
  let days := daysIn (valueIn 10 (cs.take 4)) (valueIn 10 (rest.take 2))
  let rest ← (field? 2 1 12 rest).bind (mark? '-')
  field? 2 1 days rest

/-- Seconds with a fraction or without. -/
def seconds? (cs : List Char) : Option (List Char) := do
  let rest ← field? 2 0 60 cs
  match rest with
  | '.' :: ds =>
    let front := ds.takeWhile Char.isDigit
    if front.isEmpty then none else some (ds.drop front.length)
  | _ => some rest

def time? (ed : Edition) (cs : List Char) : Option (List Char) := do
  let rest ← (field? 2 0 23 cs).bind (mark? ':')
  let rest ← field? 2 0 59 rest
  match rest with
  | ':' :: rest => seconds? rest
  | _ => if ed.relaxed then some rest else none

def offset? (cs : List Char) : Option (List Char) :=
  match cs with
  | [] => some []
  | c :: rest =>
    if c = 'Z' ∨ c = 'z' then some rest
    else if c = '+' ∨ c = '-' then ((field? 2 0 23 rest).bind (mark? ':')).bind (field? 2 0 59)
    else none

/-- A date, a time of day, or both. -/
def isDateTime (ed : Edition) (cs : List Char) : Bool :=
  match date? cs with
  | some [] => true
  | some (c :: rest) =>
    (c = 'T' || c = 't' || c = ' ') && ((time? ed rest).bind offset?) == some []
  | none => time? ed cs == some []

/-- Dates have no JSON form of their own. -/
def dateTimeJson (cs : List Char) : Json := .object [("datetime", .string (String.ofList cs))]

def isNumberPart (c : Char) : Bool :=
  c.isAlphanum || c = '+' || c = '-' || c = '_' || c = '.' || c = ':'

/-- A number, a date or a truth value. A date may be followed by a blank and a time. -/
def scalar (ed : Edition) : Reader Json := do
  let front ← takeWhile isNumberPart
  let s := String.ofList front
  if s == "true" then return .bool true
  else if s == "false" then return .bool false
  else if front.length = 10 ∧ date? front = some [] then
    let cs ← get
    match cs with
    | ' ' :: d :: rest =>
      if d.isDigit then
        let time := (d :: rest).takeWhile isNumberPart
        if isDateTime ed (front ++ ' ' :: time) then
          set ((d :: rest).drop time.length)
          return dateTimeJson (front ++ ' ' :: time)
        else failure
      else return dateTimeJson front
    | _ => return dateTimeJson front
  else if isDateTime ed front then return dateTimeJson front
  else match number? front with
    | some j => return j
    | none => failure

/-! ## Tables under construction -/

/-- How a table came into being. -/
inductive Standing where
  /-- It was opened by a header of its own. -/
  | opened
  /-- A header below it implied it. -/
  | implied
  /-- A dotted key made it. -/
  | dotted
deriving DecidableEq, Repr

inductive Node where
  | value (j : Json)
  | table (standing : Standing) (entries : List (String × Node))
  /-- An array of tables, each made by a header; the last one comes first. -/
  | tables (elements : List (List (String × Node)))

abbrev Entries := List (String × Node)

namespace Entries

def node? (es : Entries) (key : String) : Option Node :=
  (List.find? (·.1 == key) es).map (·.2)

/-- Puts a node under a key, in place of the old one or at the end. -/
def replace (es : Entries) (key : String) (n : Node) : Entries :=
  if es.any (·.1 == key) then es.map fun (k, m) => if k == key then (k, n) else (k, m)
  else es ++ [(key, n)]

/-- Changes the table that a list of keys leads to. Missing tables are made with a standing; through
an array of tables the way leads into its last one. `dotted` forbids the way through tables that
were opened by a header. -/
def descend? (standing : Standing) (dotted : Bool)
    (change : Option Standing → Entries → Option Entries) :
    List String → Option Standing → Entries → Option Entries
  | [], here, es => change here es
  | k :: ks, _, es =>
    match node? es k with
    | none => do
      let inner ← descend? standing dotted change ks (some standing) []
      return replace es k (.table standing inner)
    | some (.table s inner) =>
      if dotted && s == .opened then none
      else do
        let inner ← descend? standing dotted change ks (some s) inner
        return replace es k (.table s inner)
    | some (.tables (last :: others)) => do
      let last ← descend? standing dotted change ks (some .opened) last
      return replace es k (.tables (last :: others))
    | some _ => none

/-- Opens a table by its header. -/
def open? (es : Entries) (path : List String) : Option Entries := do
  let key ← path.getLast?
  descend? .implied false (fun _ es => match node? es key with
    | none => some (replace es key (.table .opened []))
    | some (.table .implied inner) => some (replace es key (.table .opened inner))
    | some _ => none) path.dropLast none es

/-- Adds a table to an array of tables. -/
def append? (es : Entries) (path : List String) : Option Entries := do
  let key ← path.getLast?
  descend? .implied false (fun _ es => match node? es key with
    | none => some (replace es key (.tables [[]]))
    | some (.tables elements) => some (replace es key (.tables ([] :: elements)))
    | some _ => none) path.dropLast none es

/-- Sets a key, which may be dotted, in the table itself. A dotted key adds only to tables that
dotted keys made. -/
def put? (es : Entries) (path : List String) (value : Json) : Option Entries := do
  let key ← path.getLast?
  descend? .dotted true (fun here es =>
    if path.length ≠ 1 ∧ here ≠ some .dotted then none
    else match node? es key with
      | none => some (replace es key (.value value))
      | some _ => none) path.dropLast none es

/-- Sets a key in the table that a header opened last. -/
def putAt? (es : Entries) (header path : List String) (value : Json) : Option Entries :=
  descend? .implied false (fun _ es => put? es path value) header none es

end Entries

mutual

def Node.toJson : Node → Json
  | .value j => j
  | .table _ es => .object (entriesToJson es)
  | .tables elements => .array (elementsToJson elements).reverse

def entriesToJson : List (String × Node) → List (String × Json)
  | [] => []
  | (k, n) :: es => (k, n.toJson) :: entriesToJson es

def elementsToJson : List (List (String × Node)) → List Json
  | [] => []
  | es :: rest => .object (entriesToJson es) :: elementsToJson rest

end

/-! ## Values -/

mutual

/-- A value that nests at most `room` deep. -/
def value (ed : Edition) : Nat → Nat → Reader Json
  | 0, _ => failure
  | fuel + 1, room => do
    if ← tryWord "\"\"\"" then return .string (← multilineString ed '"' true)
    else if ← tryWord "'''" then return .string (← multilineString ed '\x27' false)
    else if ← tryWord "\"" then return .string (← basicString ed)
    else if ← tryWord "'" then return .string (← literalString)
    else if ← tryWord "[" then
      if room = 0 then failure else return .array (← items ed fuel (room - 1))
    else if ← tryWord "\x7b" then
      if room = 0 then failure
      else return .object (entriesToJson (← members ed fuel (room - 1) true []))
    else scalar ed

/-- The items of an array after its bracket. -/
def items (ed : Edition) : Nat → Nat → Reader (List Json)
  | 0, _ => failure
  | fuel + 1, room => do
    skipBlankLines
    if ← tryWord "]" then return []
    else
      let j ← value ed fuel room
      skipBlankLines
      if ← tryWord "," then return j :: (← items ed fuel room)
      else
        expect ']'
        return [j]

/-- The members of a table in braces. `mayEnd` says that the brace may come next. -/
def members (ed : Edition) : Nat → Nat → Bool → Entries → Reader Entries
  | 0, _, _, _ => failure
  | fuel + 1, room, mayEnd, es => do
    skipGap ed
    if mayEnd then
      if ← tryWord "\x7d" then return es
    let path ← dottedKey ed
    expect '='
    skipSpaces
    let j ← value ed fuel room
    skipGap ed
    let some es := es.put? path j | failure
    if ← tryWord "," then members ed fuel room ed.relaxed es
    else
      expect '\x7d'
      return es

end

/-! ## Documents -/

/-- The lines of a document. `header` is the table that was opened last. -/
def linesFrom (ed : Edition) : Nat → List String → Entries → Reader Entries
  | 0, _, _ => failure
  | fuel + 1, header, es => do
    skipBlankLines
    if (← get).isEmpty then return es
    else if ← tryWord "[[" then
      let path ← dottedKey ed
      if ← tryWord "]]" then
        endLine
        let some es := es.append? path | failure
        linesFrom ed fuel path es
      else failure
    else if ← tryWord "[" then
      let path ← dottedKey ed
      expect ']'
      endLine
      let some es := es.open? path | failure
      linesFrom ed fuel path es
    else
      let path ← dottedKey ed
      expect '='
      skipSpaces
      let j ← value ed ((← remaining) + 1) ed.depth
      endLine
      let some es := es.putAt? header path j | failure
      linesFrom ed fuel header es

/-- Reads a whole text as one document. A byte order mark at its start is passed over. -/
def parse? (ed : Edition) (s : String) : Option Json := do
  let cs := match s.toList with
    | '\uFEFF' :: rest => rest
    | cs => cs
  let (es, _) ← (linesFrom ed (cs.length + 2) [] []).run cs
  return .object (entriesToJson es)

end Toml
end PluginHost
