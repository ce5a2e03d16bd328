/-!
# Readers

A reader takes characters from the front of what is left and fails where the text is not of its
form.
-/

namespace PluginHost

abbrev Reader := StateT (List Char) Option

namespace Reader

/-- Takes a character that is expected. -/
def expect (c : Char) : Reader Unit := do
  match ← get with
  | d :: rest => if c = d then set rest else failure
  | [] => failure

/-- Takes characters that may be next, all or none. Returns whether they were. -/
def tryWord (w : String) : Reader Bool := do
  let cs ← get
  if w.toList.isPrefixOf cs then
    set (cs.drop w.length)
    return true
  else return false

/-- Takes characters as long as they are of a kind. -/
def takeWhile (p : Char → Bool) : Reader (List Char) := do
  let cs ← get
  let front := cs.takeWhile p
  set (cs.drop front.length)
  return front

/-- How many characters are left; no reader takes more steps than that. -/
def remaining : Reader Nat := do return (← get).length

/-- Reads a whole text. -/
def readAll? {α : Type} (r : Reader α) (s : String) : Option α := do
  let (a, rest) ← r.run s.toList
  if rest.isEmpty then some a else none

end Reader
end PluginHost
