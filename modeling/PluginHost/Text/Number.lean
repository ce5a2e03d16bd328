/-!
# Numbers of 64 bits

* `Number.read` reads decimal digits, after a plus sign or not, and says why a text is no such
  number: what stands first in it counts.
* `Number.isBeyondAll` tells decimals that are too large even for a number with an exponent.
-/

namespace PluginHost

/-- Why a text is no number of 64 bits. -/
inductive NumberError where
  | empty
  | digit
  | tooLarge
deriving DecidableEq, Repr

def NumberError.message : NumberError → String
  | empty => "cannot parse integer from empty string"
  | digit => "invalid digit found in string"
  | tooLarge => "number too large to fit in target type"

namespace Number

/-- Reads digits behind those that make up `n`. -/
def readDigits (n : Nat) : List Char → Except NumberError Nat
  | [] => .ok n
  | c :: cs =>
    if !c.isDigit then .error .digit
    else
      let m := n * 10 + (c.toNat - 48)
      if m < 0x10000000000000000 then readDigits m cs else .error .tooLarge

/-- Reads a number. -/
def read (s : String) : Except NumberError Nat :=
  match s.toList with
  | [] => .error .empty
  | ['+'] => .error .digit
  | '+' :: ds => readDigits 0 ds
  | ds => readDigits 0 ds

/-- The decimal `digits * 10 ^ exponent` is beyond the largest number of 64 bits with an exponent:
it is no nearer to that number than to the next power of two. -/
def isBeyondAll (digits : Nat) (exponent : Int) : Bool :=
  digits != 0 && (400 < exponent ||
    (0 ≤ exponent + 800 && (Nat.pow 2 1024 - Nat.pow 2 970) * Nat.pow 10 800 ≤
        digits * Nat.pow 10 (exponent + 800).toNat))

end Number
end PluginHost
