import PluginHost.Json.Basic

/-!
# Reading JSON

`Json.parse?` reads one document and nothing after it but blanks. Documents nest at most 127 deep.
Each reader takes the characters that are left and returns what it read with the rest.

`Json.parseMembers?` reads an object of which only some members count. The others need the form of a
value and no more: they nest as deep as they like, and half of a surrogate pair may stand in them.
-/

namespace PluginHost
namespace Json

def isBlank (c : Char) : Bool := c = ' ' || c = '\t' || c = '\n' || c = '\r'

def skipBlanks (cs : List Char) : List Char := cs.dropWhile isBlank

/-! ## Strings -/

def hexValue? (c : Char) : Option Nat :=
  if '0' ≤ c ∧ c ≤ '9' then some (c.toNat - 48)
  else if 'a' ≤ c ∧ c ≤ 'f' then some (c.toNat - 87)
  else if 'A' ≤ c ∧ c ≤ 'F' then some (c.toNat - 55)
  else none

/-- Four hexadecimal digits. -/
def hexFour? : List Char → Option (Nat × List Char)
  | a :: b :: c :: d :: rest =>
    match hexValue? a, hexValue? b, hexValue? c, hexValue? d with
    | some a, some b, some c, some d => some (((a * 16 + b) * 16 + c) * 16 + d, rest)
    | _, _, _, _ => none
  | _ => none

/-- How much is asked of a text. -/
inductive Care where
  /-- The text is read for what it says. -/
  | read
  /-- The text is passed over. -/
  | skip
deriving DecidableEq, Repr

/-- What follows `\u`: one unit, or a high surrogate with its low one. Where nobody reads the text,
a surrogate may stand alone. -/
def unicodeEscape? (care : Care) (cs : List Char) : Option (Char × List Char) := do
  let (high, rest) ← hexFour? cs
  if care = .skip then some (Char.ofNat high, rest)
  else if 0xDC00 ≤ high ∧ high ≤ 0xDFFF then none
  else if 0xD800 ≤ high ∧ high ≤ 0xDBFF then
    match rest with
    | '\\' :: 'u' :: rest =>
      let (low, rest) ← hexFour? rest
      if 0xDC00 ≤ low ∧ low ≤ 0xDFFF then
        some (Char.ofNat (0x10000 + (high - 0xD800) * 0x400 + (low - 0xDC00)), rest)
      else none
    | _ => none
  else some (Char.ofNat high, rest)

/-- The character of an escape with one letter. -/
def shortEscape? (c : Char) : Option Char :=
  match c with
  | '"' => some '"'
  | '\\' => some '\\'
  | '/' => some '/'
  | 'b' => some '\x08'
  | 'f' => some '\x0c'
  | 'n' => some '\n'
  | 'r' => some '\r'
  | 't' => some '\t'
  | _ => none

/-- The characters of a string after its opening quote, most recent first; `fuel` bounds their
count. -/
def stringFrom? (care : Care) : Nat → List Char → List Char → Option (String × List Char)
  | 0, _, _ => none
  | fuel + 1, read, cs =>
    match cs with
    | '"' :: rest => some (String.ofList read.reverse, rest)
    | '\\' :: 'u' :: rest => do
      let (c, rest) ← unicodeEscape? care rest
      stringFrom? care fuel (c :: read) rest
    | '\\' :: c :: rest => do stringFrom? care fuel ((← shortEscape? c) :: read) rest
    | c :: rest => if c.toNat < 0x20 then none else stringFrom? care fuel (c :: read) rest
    | [] => none

/-! ## Numbers -/

def isDigit (c : Char) : Bool := '0' ≤ c && c ≤ '9'

/-- One or more digits. -/
def digits? (cs : List Char) : Option (List Char × List Char) :=
  let ds := cs.takeWhile isDigit
  if ds.isEmpty then none else some (ds, cs.drop ds.length)

/-- The digits before the point: no leading zeros. -/
def whole? (cs : List Char) : Option (List Char × List Char) :=
  match cs with
  | '0' :: rest => if (rest.head?.map isDigit).getD false then none else some (['0'], rest)
  | _ => digits? cs

def fraction? (cs : List Char) : Option (List Char × List Char) :=
  match cs with
  | '.' :: rest => (digits? rest).map fun (ds, rest) => ('.' :: ds, rest)
  | _ => some ([], cs)

def exponent? (cs : List Char) : Option (List Char × List Char) :=
  match cs with
  | e :: rest =>
    if e = 'e' ∨ e = 'E' then
      match rest with
      | '+' :: rest => (digits? rest).map fun (ds, rest) => ('e' :: '+' :: ds, rest)
      | '-' :: rest => (digits? rest).map fun (ds, rest) => ('e' :: '-' :: ds, rest)
      | _ => (digits? rest).map fun (ds, rest) => ('e' :: ds, rest)
    else some ([], cs)
  | [] => some ([], cs)

/-- The value of decimal digits. -/
def natOfDigits (ds : List Char) : Nat := ds.foldl (fun n c => n * 10 + (c.toNat - 48)) 0

/-- A number after its sign. Negative zero is not a whole number. -/
def number? (negative : Bool) (cs : List Char) : Option (Json × List Char) := do
  let (whole, rest) ← whole? cs
  let (fraction, rest) ← fraction? rest
  let (exponent, rest) ← exponent? rest
  let n : Int := natOfDigits whole
  let value := if negative then -n else n
  if fraction.isEmpty && exponent.isEmpty && isWide value && !(negative && n = 0) then
    some (int value, rest)
  else
    let sign := if negative then ['-'] else []
    some (decimal (String.ofList (sign ++ whole ++ fraction ++ exponent)), rest)

/-! ## Documents -/

/-- Reads a fixed word. -/
def word? (w : String) (value : Json) (cs : List Char) : Option (Json × List Char) :=
  if w.toList.isPrefixOf cs then some (value, cs.drop w.length) else none

mutual

/-- A value that nests at most `depth` deep. -/
def value? (care : Care) : Nat → Nat → List Char → Option (Json × List Char)
  | 0, _, _ => none
  | fuel + 1, depth, cs =>
    match skipBlanks cs with
    | '"' :: rest =>
      (stringFrom? care (rest.length + 1) [] rest).map fun (s, rest) => (string s, rest)
    | '-' :: rest => number? true rest
    | '[' :: rest =>
      match depth with
      | 0 => none
      | depth + 1 =>
        match skipBlanks rest with
        | ']' :: rest => some (array [], rest)
        | rest => (items? care fuel depth [] rest).map fun (js, rest) => (array js, rest)
    | '\x7b' :: rest =>
      match depth with
      | 0 => none
      | depth + 1 =>
        match skipBlanks rest with
        | '\x7d' :: rest => some (object [], rest)
        | rest => (members? care fuel depth [] rest).map fun (ms, rest) => (object ms, rest)
    | 't' :: rest => word? "rue" (bool true) rest
    | 'f' :: rest => word? "alse" (bool false) rest
    | 'n' :: rest => word? "ull" null rest
    | c :: rest => if isDigit c then number? false (c :: rest) else none
    | [] => none

/-- The items of an array from one on, and its bracket. -/
def items? (care : Care) : Nat → Nat → List Json → List Char → Option (List Json × List Char)
  | 0, _, _, _ => none
  | fuel + 1, depth, read, cs => do
    let (j, rest) ← value? care fuel depth cs
    match skipBlanks rest with
    | ',' :: rest => items? care fuel depth (j :: read) rest
    | ']' :: rest => some ((j :: read).reverse, rest)
    | _ => none

/-- The members of an object from one on, and its brace. -/
def members? (care : Care) : Nat → Nat → List (String × Json) → List Char →
    Option (List (String × Json) × List Char)
  | 0, _, _, _ => none
  | fuel + 1, depth, read, cs => do
    match skipBlanks cs with
    | '"' :: rest =>
      let (k, rest) ← stringFrom? care (rest.length + 1) [] rest
      match skipBlanks rest with
      | ':' :: rest =>
        let (j, rest) ← value? care fuel depth rest
        match skipBlanks rest with
        | ',' :: rest => members? care fuel depth ((k, j) :: read) rest
        | '\x7d' :: rest => some (((k, j) :: read).reverse, rest)
        | _ => none
      | _ => none
    | _ => none

end

/-- The deepest nesting that is read. -/
def maxDepth : Nat := 127

/-- Reads a whole text as one document. -/
def parse? (s : String) : Option Json := do
  let cs := s.toList
  let (j, rest) ← value? .read (2 * cs.length + 2) maxDepth cs
  if (skipBlanks rest).isEmpty then some j else none

/-- Reads members of the outermost object from one on, and its brace. Those that are not wanted are
passed over. -/
def wantedMembers? (wanted : String → Bool) : Nat → List (String × Json) → List Char →
    Option (List (String × Json) × List Char)
  | 0, _, _ => none
  | fuel + 1, read, cs => do
    let '"' :: rest := skipBlanks cs | none
    let (k, rest) ← stringFrom? .read (rest.length + 1) [] rest
    let ':' :: rest := skipBlanks rest | none
    let size := 2 * rest.length + 2
    let (j, rest) ←
      if wanted k then value? .read size (maxDepth - 1) rest else value? .skip size size rest
    let read := if wanted k then (k, j) :: read else read
    match skipBlanks rest with
    | ',' :: rest => wantedMembers? wanted fuel read rest
    | '\x7d' :: rest => some (read.reverse, rest)
    | _ => none

/-- Reads a whole text as one document; of an object only the members that are wanted. -/
def parseMembers? (wanted : String → Bool) (s : String) : Option Json :=
  match skipBlanks s.toList with
  | '\x7b' :: rest => do
    let (ms, rest) ← match skipBlanks rest with
      | '\x7d' :: rest => some ([], rest)
      | rest => wantedMembers? wanted (rest.length + 1) [] rest
    if (skipBlanks rest).isEmpty then some (object ms) else none
  | _ => parse? s

end Json
end PluginHost
