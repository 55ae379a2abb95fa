import DevEnv.Binary64
import DevEnv.Text.Integer

/-!
Literals of real numbers: a decimal numeral with an optional fraction and an optional power of ten,
or one of the words for the numbers that are none.
-/

namespace DevEnv.Text

set_option autoImplicit false

/-- Grouped digits, or none at all. -/
def optionalDigits : List Char → Option (List Nat)
  | [] => some []
  | cs => groupedDigits decimalValue? cs

/-- The power of ten that the text after the mantissa names. -/
def powerOfTen? : List Char → Option Int
  | [] => some 0
  | _ :: cs =>
    let (negative, ds) := splitSign cs
    (groupedDigits decimalValue? ds).map fun ds => signed negative (ofDigits ds)

/-- A literal in the digits of any script, white space around it allowed. -/
def real? (s : String) : Option Binary64 :=
  let (negative, body) := splitSign (trim isWhiteSpace s.toList)
  let word := String.ofList (body.map Char.toLower)
  if word == "inf" || word == "infinity" then some (.infinite negative)
  else if word == "nan" then some .undefined
  else do
    let (mantissa, tail) := body.span fun c => c != 'e' && c != 'E'
    let (front, back) := mantissa.span (· != '.')
    let power ← powerOfTen? tail
    let units ← optionalDigits front
    let fraction ← optionalDigits back.tail
    if units.isEmpty && fraction.isEmpty then none
    else some (.ofDecimal negative (ofDigits (units ++ fraction)) (power - fraction.length))

end DevEnv.Text
