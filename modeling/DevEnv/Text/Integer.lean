import DevEnv.Text.Blank
import DevEnv.Text.Digit

/-!
Integer literals in the digits of any script. Single underscores may group the digits, and no
literal is longer than a fixed number of digits.
-/

namespace DevEnv.Text

set_option autoImplicit false

/-- Longer numerals are not read. -/
def maxDigits : Nat := 4300

/-- The values of digits that single underscores may separate. -/
def groupedDigits (digit? : Char → Option Nat) : List Char → Option (List Nat)
  | [] => none
  | [c] => (digit? c).map fun d => [d]
  | c :: '_' :: rest => do
    let d ← digit? c
    let ds ← groupedDigits digit? rest
    return d :: ds
  | c :: next :: rest => do
    let d ← digit? c
    let ds ← groupedDigits digit? (next :: rest)
    return d :: ds

/-- Whether a text begins with a minus sign, and what follows the sign if there is one. -/
def splitSign : List Char → Bool × List Char
  | '-' :: rest => (true, rest)
  | '+' :: rest => (false, rest)
  | cs => (false, cs)

/-- The integer with this sign and magnitude. -/
def signed (negative : Bool) (n : Nat) : Int :=
  if negative then -(n : Int) else n

/-- The number that a list of digits spells, unless it is too long. -/
def bounded? (ds : List Nat) : Option Nat :=
  if ds.length ≤ maxDigits then some (ofDigits ds) else none

/-- A literal in the digits of any script, white space around it allowed. -/
def integer? (s : String) : Option Int := do
  let (negative, body) := splitSign (trim isWhiteSpace s.toList)
  let n ← bounded? (← groupedDigits decimalValue? body)
  return signed negative n

end DevEnv.Text
