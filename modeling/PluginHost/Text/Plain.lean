/-!
# Plain text

Text without the controls of a terminal. `strip` drops control characters other than blanks and line
ends, and sequences that begin with an escape character. `stripPieces` does it for a text whose
style changes between pieces.
-/

namespace PluginHost
namespace Plain

/-- Inside what a character stands. -/
inductive Mode where
  | text
  /-- After an escape character. -/
  | escape
  /-- After an escape character and signs that go before the one that ends the sequence. -/
  | intermediate
  /-- In a sequence that ends with a letter or a mark like it. -/
  | control
  /-- In a text for the terminal, which the bell ends if `bell` is set. -/
  | message (bell : Bool)
deriving DecidableEq, Repr

def escapeChar : Char := '\x1b'

/-- Characters that abandon a sequence. -/
def isCancel (c : Char) : Bool := c == '\x18' || c == '\x1a'

/-- Controls that move on a page and are kept. -/
def isSpacing (c : Char) : Bool := c == '\t' || c == '\n' || c == '\x0c' || c == '\x0d'

def isControl (c : Char) : Bool := c.toNat < 0x20 || c == '\x7f'

/-- The mode after the character that follows an escape. -/
def afterEscape (c : Char) : Mode :=
  if c = '[' then .control
  else if c = ']' then .message true
  else if c = 'P' ∨ c = 'X' ∨ c = '^' ∨ c = '_' then .message false
  else if c.toNat < 0x30 then .intermediate
  else .text

/-- The mode after a character, and whether the character is kept. Inside a sequence a blank or a
line end ends it, and characters beyond ASCII count for nothing. -/
def step (m : Mode) (c : Char) : Mode × Bool :=
  if c = escapeChar then (.escape, false)
  else if isCancel c then (.text, false)
  else match m with
    | .text => (.text, !isControl c || isSpacing c)
    | .message bell => (if bell && c == '\x07' then .text else m, false)
    | .escape =>
      if isSpacing c then (.text, true)
      else if isControl c || 0x80 ≤ c.toNat then (m, false)
      else (afterEscape c, false)
    | .intermediate =>
      if isSpacing c then (.text, true)
      else if isControl c || 0x80 ≤ c.toNat || c.toNat < 0x30 then (m, false)
      else (.text, false)
    | .control =>
      if isSpacing c then (.text, true)
      else if isControl c || 0x80 ≤ c.toNat || c.toNat < 0x40 then (m, false)
      else (.text, false)

def stripFrom : Mode → List Char → List Char
  | _, [] => []
  | m, c :: cs =>
    let (m, kept) := step m c
    if kept then c :: stripFrom m cs else stripFrom m cs

/-- The text without controls. -/
def strip (s : String) : String := String.ofList (stripFrom .text s.toList)

/-- The text of pieces without controls. The style changes between pieces, and a change of style
ends a sequence that stands open. -/
def stripPieces (pieces : List String) : String := String.join (pieces.map strip)

theorem step_text_of_not_isControl {c : Char} (h : isControl c = false) :
    step .text c = (.text, true) := by
  have hc : ∀ d : Char, isControl d = true → c ≠ d := fun d hd e => by
    subst e; simp [h] at hd
  have hesc : c ≠ escapeChar := hc _ (by decide)
  have hcancel : isCancel c = false := by
    simp [isCancel, hc '\x18' (by decide), hc '\x1a' (by decide)]
  simp [step, hesc, hcancel, h]

/-- Text without control characters stays as it is. -/
theorem strip_of_forall_not_isControl {s : String} (h : ∀ c ∈ s.toList, isControl c = false) :
    strip s = s := by
  have go : ∀ cs : List Char, (∀ c ∈ cs, isControl c = false) → stripFrom .text cs = cs := by
    intro cs
    induction cs with
    | nil => intro _; rfl
    | cons c cs ih =>
      intro hcs
      have hc := step_text_of_not_isControl (hcs c (List.mem_cons_self ..))
      simp only [stripFrom, hc, if_true]
      rw [ih fun d hd => hcs d (List.mem_cons_of_mem _ hd)]
  rw [strip, go _ h, String.ofList_toList]

end Plain
end PluginHost
