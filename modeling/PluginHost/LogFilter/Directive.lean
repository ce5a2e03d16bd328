import PluginHost.LogFilter.Pattern
import PluginHost.Settings.Logging

/-!
# Filter directives

A directive says from which level on log events are shown. It may be limited to a target, to a span
and to events with certain fields: `target[span{field}]=level`. A field may be given a value, which
is a number, a word or a pattern.
-/

namespace PluginHost
namespace LogFilter

/-- Why a filter cannot be read. -/
inductive ParseError where
  | malformed
  | pattern
  | level
deriving DecidableEq, Repr

def ParseError.message : ParseError → String
  | malformed => "invalid filter directive"
  | pattern => "invalid field filter: error building NFA"
  | level =>
    "error parsing level filter: expected one of \"off\", \"error\", \"warn\", \"info\", " ++
      "\"debug\", \"trace\", or a number 0-5"

/-- A field that an event must have, with a value or with any. -/
structure FieldMatch where
  name : String
  value : Option String
deriving DecidableEq, Repr

structure Directive where
  target : Option String
  span : Option String
  fields : List FieldMatch
  level : LogLevel
deriving DecidableEq, Repr

/-- A small number, after a plus sign or not. -/
def number? (cs : List Char) : Option Nat :=
  let ds := match cs with
    | '+' :: rest => rest
    | _ => cs
  if ds.isEmpty || !ds.all Char.isDigit then none
  else some (ds.foldl (fun n c => n * 10 + (c.toNat - 48)) 0)

/-- Reads a level: a number up to five or a name in any letter case. Nothing at all is `error`. -/
def readLevel? (cs : List Char) : Option LogLevel :=
  match number? cs with
  | some n => LogLevel.all.find? (·.rank == n)
  | none => if cs.isEmpty then some .error else LogLevel.parse? (String.ofList cs)

namespace Directive

/-- How far a directive has been read; positions count from the front. -/
inductive Progress where
  | start
  | levelOrTarget (first : Nat)
  | span (first : Nat)
  | field (first : Nat)
  | fields
  | afterSpan
  | level (first : Nat)
deriving DecidableEq, Repr

/-- The characters from one position up to another. -/
def slice (text : List Char) (first last : Nat) : List Char := (text.drop first).take (last - first)

/-- A directive under construction. -/
structure Draft where
  progress : Progress
  directive : Directive
deriving DecidableEq, Repr

def Draft.initial : Draft := ⟨.start, ⟨none, none, [], .trace⟩⟩

/-- A directive begins with a bracket, a letter, a digit or one of three signs. -/
def mayStart (c : Char) : Bool :=
  c = '-' || c = ':' || c = '_' || Alphanumeric.isAlphanumeric c

/-- The end of a number: nothing, or an exponent. -/
def isExponent : List Char → Bool
  | [] => true
  | c :: cs =>
    let digits := if cs.head? = some '+' || cs.head? = some '-' then cs.tail else cs
    (c = 'e' || c = 'E') && !digits.isEmpty && digits.all Char.isDigit

/-- A number without sign, with places and an exponent or not, or a word for what is not finite. -/
def isUnsigned (cs : List Char) : Bool :=
  let whole := cs.takeWhile Char.isDigit
  ["inf", "infinity", "nan"].contains (asciiLower (String.ofList cs)) ||
    match cs.drop whole.length with
    | '.' :: rest =>
      let places := rest.takeWhile Char.isDigit
      !(whole.isEmpty && places.isEmpty) && isExponent (rest.drop places.length)
    | rest => !whole.isEmpty && isExponent rest

/-- The text is a value: a pattern, as numbers and words are too, or a number after a plus sign. -/
def isValue (cs : List Char) : Bool :=
  match cs with
  | '+' :: rest => isUnsigned rest
  | _ => Pattern.isWellFormed cs

/-- Reads a field, with a value after an equals sign or without. A second such sign ends the
value. -/
def readField (cs : List Char) : Except ParseError FieldMatch :=
  let name := cs.takeWhile (· != '=')
  match (cs.drop name.length).tail? with
  | none => .ok ⟨String.ofList name, none⟩
  | some rest =>
    let value := rest.takeWhile (· != '=')
    if isValue value then .ok ⟨String.ofList name, some (String.ofList value)⟩ else .error .pattern

/-- Takes one character at a position. Parts of the directive are cut from `text`. -/
def step (text : List Char) (d : Draft) (position : Nat) (c : Char) : Except ParseError Draft :=
  let dir := d.directive
  match d.progress with
  | .start =>
    if c = '[' then .ok ⟨.span (position + 1), dir⟩
    else if mayStart c then .ok ⟨.levelOrTarget position, dir⟩
    else .error .malformed
  | .levelOrTarget first =>
    let target := some (String.ofList (slice text first position))
    if c = '=' then .ok ⟨.level (position + 1), { dir with target }⟩
    else if c = '[' then .ok ⟨.span (position + 1), { dir with target }⟩
    else .ok d
  | .span first =>
    let name := slice text first position
    if c = ']' then .ok ⟨.afterSpan, { dir with span := some (String.ofList name) }⟩
    else if c = '\x7b' then
      .ok ⟨.field (position + 1), { dir with
        span := if name.isEmpty then none else some (String.ofList name) }⟩
    else .ok d
  | .field first =>
    if c = '\x7d' then
      let field := slice text first position
      if field.isEmpty then .error .malformed
      else (readField field).map fun m => ⟨.fields, { dir with fields := dir.fields ++ [m] }⟩
    else .ok d
  | .fields => if c = ']' then .ok ⟨.afterSpan, dir⟩ else .error .malformed
  | .afterSpan => if c = '=' then .ok ⟨.level (position + 1), dir⟩ else .error .malformed
  | .level _ => .ok d

/-- Takes characters from a position on. -/
def scan (text : List Char) : Nat → List Char → Draft → Except ParseError Draft
  | _, [], d => .ok d
  | position, c :: cs, d => (step text d position c).bind (scan text (position + 1) cs)

/-- Completes a directive. What stands alone is a level if it reads as one, else a target of which
everything is shown. -/
def finish (text : List Char) (d : Draft) : Except ParseError Directive :=
  let dir := d.directive
  match d.progress with
  | .levelOrTarget first =>
    let rest := text.drop first
    match (if rest.isEmpty then some LogLevel.trace else readLevel? rest) with
    | some level => .ok { dir with level, target := none }
    | none => .ok { dir with level := .trace, target := some (String.ofList rest) }
  | .level first =>
    let rest := text.drop first
    match (if rest.isEmpty then some LogLevel.trace else readLevel? rest) with
    | some level => .ok { dir with level }
    | none => .error .level
  | .afterSpan => .ok dir
  | _ => .error .malformed

/-- Reads a directive. Blanks around it are passed over in looking for its signs, yet positions
count from the front of the text as it stands: a leading blank belongs to the first part. -/
def parse (text : List Char) : Except ParseError Directive :=
  (scan text 0 (Blank.trim text) .initial).bind (finish text)

end Directive

end LogFilter
end PluginHost
