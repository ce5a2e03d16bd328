import PluginHost.Json.Parser
import PluginHost.Text.Blank
import PluginHost.Text.Number
import PluginHost.Text.Reader

/-!
# Loose values

The value of an environment variable is text, but a setting may be a number, a truth value or a
list. `LooseValue.read` takes what looks like one of these for it; anything else is the text itself.
-/

namespace PluginHost
namespace LooseValue

open Reader

/-- Characters that end a word. -/
def isSeparator (c : Char) : Bool :=
  c = ',' || c = '\x7b' || c = '\x7d' || c = '[' || c = ']'

/-- Blanks in the sense of ASCII. -/
def isBlank (c : Char) : Bool := c = ' ' || c = '\t' || c = '\n' || c = '\r' || c = '\x0c'

def skipBlanks : Reader Unit := do let _ ← takeWhile isBlank

/-! ## Numbers -/

def natOf? (cs : List Char) : Option Nat :=
  if cs.isEmpty || !cs.all Char.isDigit then none else some (Json.natOfDigits cs)

/-- A whole number that fits 64 bits, with a sign or without. -/
def int? (cs : List Char) : Option Json :=
  let n? : Option Int := match cs with
    | '+' :: ds => (natOf? ds).map Int.ofNat
    | '-' :: ds => (natOf? ds).map fun n => -(n : Int)
    | ds => (natOf? ds).map Int.ofNat
  (n?.filter Json.isWide).map .int

/-- An exponent of ten with or without a sign. -/
def exponent? (cs : List Char) : Option Int :=
  match cs with
  | '+' :: ds => (natOf? ds).map Int.ofNat
  | '-' :: ds => (natOf? ds).map fun n => -(n : Int)
  | ds => (natOf? ds).map Int.ofNat

/-- A decimal number with a point. What is beyond all numbers is null. -/
def decimal? (cs : List Char) : Option Json := do
  let unsigned := match cs with
    | '+' :: rest => rest
    | '-' :: rest => rest
    | rest => rest
  let mantissa := unsigned.takeWhile fun c => c != 'e' && c != 'E'
  let exponent ← match unsigned.drop mantissa.length with
    | [] => some 0
    | _ :: e => exponent? e
  let whole := mantissa.takeWhile (· != '.')
  let '.' :: fraction := mantissa.drop whole.length | none
  let n ← natOf? (whole ++ fraction)
  if Number.isBeyondAll n (exponent - fraction.length) then some .null
  else some (.decimal (String.ofList cs))

/-- A truth value in any letter case. -/
def bool? (cs : List Char) : Option Json :=
  let small := String.ofList (cs.map Char.toLower)
  if small == "true" then some (.bool true)
  else if small == "false" then some (.bool false)
  else none

/-- A word: a number or a truth value if it reads as one, else text. -/
def ofWord (cs : List Char) : Json :=
  let word := Blank.trim cs
  match (if word.contains '.' then decimal? word else none) with
  | some j => j
  | none => ((int? word).or (bool? word)).getD (.string (String.ofList word))

/-! ## Quoted values -/

/-- The characters up to the closing quote; a backslash protects the one after it. -/
def quotedFrom : Nat → List Char → Reader (List Char)
  | 0, _ => failure
  | fuel + 1, read => do
    match ← get with
    | '"' :: rest => set rest; return read.reverse
    | '\\' :: c :: rest => set rest; quotedFrom fuel (c :: '\\' :: read)
    | c :: rest => set rest; quotedFrom fuel (c :: read)
    | [] => failure

/-- A code point of a count of hexadecimal digits at the front. -/
def codePoint? (digits : Nat) (cs : List Char) : Option Char := do
  let values ← (cs.take digits).mapM Json.hexValue?
  let n := values.foldl (fun n d => n * 16 + d) 0
  if values.length = digits ∧ (n < 0xD800 ∨ (0xDFFF < n ∧ n ≤ 0x10FFFF)) then some (Char.ofNat n)
  else none

/-- Characters that may stand between quotes: no control characters but the tab. -/
def isPlain (c : Char) : Bool := c = '\t' || (0x20 ≤ c.toNat && c.toNat != 0x7F)

def unescapeFrom : Nat → List Char → Option (List Char)
  | 0, _ => none
  | _ + 1, [] => some []
  | fuel + 1, '\\' :: c :: rest =>
    let plain (d : Char) := (unescapeFrom fuel rest).map (d :: ·)
    match c with
    | '"' => plain '"'
    | '\\' => plain '\\'
    | 'b' => plain '\x08'
    | 'f' => plain '\x0c'
    | 'n' => plain '\n'
    | 'r' => plain '\r'
    | 't' => plain '\t'
    | 'u' => do return (← codePoint? 4 rest) :: (← unescapeFrom fuel (rest.drop 4))
    | 'U' => do return (← codePoint? 8 rest) :: (← unescapeFrom fuel (rest.drop 8))
    | _ => none
  | fuel + 1, c :: rest => if isPlain c then (unescapeFrom fuel rest).map (c :: ·) else none

def quoted : Reader String := do
  let inner ← quotedFrom ((← remaining) + 1) []
  let some cs := unescapeFrom (inner.length + 1) inner | failure
  return String.ofList cs

/-! ## Values -/

def isKeyPart (c : Char) : Bool := c.isAlphanum || c = '_' || c = '-'

mutual

def value : Nat → Reader Json
  | 0 => failure
  | fuel + 1 => do
    skipBlanks
    let j ←
      if ← tryWord "true" then pure (.bool true)
      else if ← tryWord "false" then pure (.bool false)
      else if ← tryWord "\x7b" then do pure (.object (← members fuel))
      else if ← tryWord "[" then do pure (.array (← items fuel))
      else if ← tryWord "\"" then do pure (.string (← quoted))
      else if ← tryWord "'" then
        match ← get with
        | c :: '\x27' :: rest => set rest; pure (.string (String.ofList [c]))
        | _ => failure
      else do pure (ofWord (← takeWhile fun c => !isSeparator c))
    skipBlanks
    return j

/-- The items of a list after its bracket. -/
def items : Nat → Reader (List Json)
  | 0 => failure
  | fuel + 1 => do
    if ← tryWord "]" then return []
    else
      let j ← value fuel
      if ← tryWord "," then return j :: (← items fuel)
      else
        expect ']'
        return [j]

/-- The members of a table after its brace. -/
def members : Nat → Reader (List (String × Json))
  | 0 => failure
  | fuel + 1 => do
    if ← tryWord "\x7d" then return []
    else
      skipBlanks
      let key ← if ← tryWord "\"" then quoted
        else do
          let k ← takeWhile isKeyPart
          if k.isEmpty then failure else pure (String.ofList k)
      skipBlanks
      expect '='
      let j ← value fuel
      if ← tryWord "," then return (key, j) :: (← members fuel)
      else
        expect '\x7d'
        return [(key, j)]

end

/-- Reads one value; a text that is none as a whole stands for itself. -/
def readOne (s : String) : Json :=
  ((readAll? (value (2 * s.length + 2)) s)).getD (.string s)

/-- A text with commas is a list, unless it opens with a bracket or a quote. -/
def isList (cs : List Char) : Bool :=
  cs.contains ',' && match cs with
    | c :: _ => !(c = '[' || c = '\x7b' || c = '"' || c = '\x27')
    | [] => false

/-- Reads the value of a variable. -/
def read (s : String) : Json :=
  let cs := Blank.trim s.toList
  if isList cs then
    .array ((String.ofList cs |>.splitOn ",").map fun piece =>
      .string (String.ofList (Blank.trim piece.toList)))
  else readOne (String.ofList cs)

end LooseValue
end PluginHost
