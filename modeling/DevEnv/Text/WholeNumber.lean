import DevEnv.Text.Integer

/-!
Whole numbers in fields of text. A numeral is read as it stands, or else after it has been tidied:
white space, a plus sign, a fraction of zeros, leading zeros and single underscores do not count.
-/

namespace DevEnv.Text

set_option autoImplicit false

/-- Why a text is read as no whole number. -/
inductive NumeralFault
  | malformed
  | tooLong
deriving DecidableEq, Repr

/-- A minus sign or none, and ASCII digits without a zero in front. Too many digits are too many
whatever follows them. -/
def numeral (cs : List Char) : Except NumeralFault Int :=
  let (negative, body) := match cs with
    | '-' :: rest => (true, rest)
    | _ => (false, cs)
  match body with
  | [] => .error .malformed
  | '0' :: rest => if rest.isEmpty then .ok 0 else .error .malformed
  | _ =>
    let ds := body.takeWhile Char.isDigit
    if maxDigits < ds.length then .error .tooLong
    else if ds.length = body.length then
      .ok (signed negative (ofDigits (ds.map fun c => c.toNat - 48)))
    else .error .malformed

/-- The text in front of a point with zeros after it, or the whole text where there is no point. -/
def withoutFraction? (cs : List Char) : Option (List Char) :=
  match cs.dropWhile (· != '.') with
  | [] => some cs
  | _ :: zeros =>
    if !zeros.isEmpty && zeros.all (· == '0') then some (cs.takeWhile (· != '.')) else none

/-- The text after zeros and the underscores among them, which end at a digit or a minus sign. Of
zeros alone the last one stays. -/
def withoutZeros? : List Char → Option (List Char)
  | [] => none
  | '0' :: rest =>
    match rest.dropWhile fun c => c == '0' || c == '_' with
    | [] => if rest.getLast? = some '_' then none else some ['0']
    | c :: more => if c.isDigit || c == '-' then some (c :: more) else none
  | c :: rest => if c.isDigit then some (c :: rest) else none

/-- Zeros dropped after a minus sign too. -/
def withoutLeadingZeros? : List Char → Option (List Char)
  | '-' :: rest => if rest.head? = some '-' then none else (withoutZeros? rest).map ('-' :: ·)
  | cs => withoutZeros? cs

/-- Whether two underscores follow each other somewhere. -/
def hasDoubleUnderscore : List Char → Bool
  | '_' :: '_' :: _ => true
  | _ :: rest => hasDoubleUnderscore rest
  | [] => false

/-- Drops the underscores if each one stands between two other characters. -/
def withoutUnderscores (cs : List Char) : List Char :=
  if cs.head? = some '_' || cs.getLast? = some '_' || hasDoubleUnderscore cs then cs
  else cs.filter (· != '_')

/-- The text after a plus sign, which no minus sign may follow. -/
def withoutPlus? : List Char → Option (List Char)
  | '+' :: rest => if rest.head? = some '-' then none else some rest
  | cs => some cs

/-- The numeral that a text comes to. -/
def tidied? (cs : List Char) : Option (List Char) := do
  let cs ← withoutFraction? (← withoutPlus? (trim isWhiteSpace cs))
  return withoutUnderscores (← withoutLeadingZeros? cs)

/-- The whole number of a text that spells one only when tidied; there all faults are one. -/
def untidyNumber (cs : List Char) : Except NumeralFault Int :=
  match (tidied? cs).map numeral with
  | some (.ok n) => .ok n
  | _ => .error .malformed

/-- The whole number that a text spells. -/
def wholeNumber (s : String) : Except NumeralFault Int :=
  match numeral s.toList with
  | .error .malformed => untidyNumber s.toList
  | result => result

end DevEnv.Text
