import PluginHost.Json.Basic

/-!
# Writing JSON

`compact` writes a document on one line without blanks, `pretty` one member or item a line, indented
by two spaces.
-/

namespace PluginHost
namespace Json

/-- Two hexadecimal digits of a number below 256. -/
def hexPair (n : Nat) : List Char := [Nat.digitChar (n / 16), Nat.digitChar (n % 16)]

/-- A character inside a string. Quotes, backslashes and control characters are escaped. -/
def escapeChar (c : Char) : List Char :=
  if c = '"' then ['\\', '"']
  else if c = '\\' then ['\\', '\\']
  else if c = '\x08' then ['\\', 'b']
  else if c = '\x0c' then ['\\', 'f']
  else if c = '\n' then ['\\', 'n']
  else if c = '\r' then ['\\', 'r']
  else if c = '\t' then ['\\', 't']
  else if c.toNat < 0x20 then ['\\', 'u', '0', '0'] ++ hexPair c.toNat
  else [c]

/-- A string in quotes. -/
def quote (s : String) : String :=
  String.ofList ('"' :: s.toList.flatMap escapeChar ++ ['"'])

mutual

def compact : Json → String
  | null => "null"
  | bool b => if b then "true" else "false"
  | int n => toString n
  | decimal t => t
  | string s => quote s
  | array js => "[" ++ ",".intercalate (compactItems js) ++ "]"
  | object ms => "\x7b" ++ ",".intercalate (compactMembers ms) ++ "\x7d"

def compactItems : List Json → List String
  | [] => []
  | j :: js => compact j :: compactItems js

def compactMembers : List (String × Json) → List String
  | [] => []
  | (k, j) :: ms => (quote k ++ ":" ++ compact j) :: compactMembers ms

end

/-- A line break and the indentation of a depth. -/
def lineAt (depth : Nat) : String := String.ofList ('\n' :: List.replicate (2 * depth) ' ')

/-- Entries on lines of their own inside brackets. -/
def block (depth : Nat) (opening closing : String) (entries : List String) : String :=
  if entries.isEmpty then opening ++ closing
  else opening ++ lineAt (depth + 1) ++ ("," ++ lineAt (depth + 1)).intercalate entries ++
    lineAt depth ++ closing

mutual

def prettyAt (depth : Nat) : Json → String
  | array js => block depth "[" "]" (prettyItems (depth + 1) js)
  | object ms => block depth "\x7b" "\x7d" (prettyMembers (depth + 1) ms)
  | null => "null"
  | bool b => if b then "true" else "false"
  | int n => toString n
  | decimal t => t
  | string s => quote s

def prettyItems (depth : Nat) : List Json → List String
  | [] => []
  | j :: js => prettyAt depth j :: prettyItems depth js

def prettyMembers (depth : Nat) : List (String × Json) → List String
  | [] => []
  | (k, j) :: ms => (quote k ++ ": " ++ prettyAt depth j) :: prettyMembers depth ms

end

def pretty (j : Json) : String := prettyAt 0 j

end Json
end PluginHost
