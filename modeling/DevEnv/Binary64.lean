/-!
Binary floating-point numbers of 64 bits, by value. Literals and quotients are rounded to the
nearest one, a tie to the even mantissa, in exact integer arithmetic.
-/

namespace DevEnv

set_option autoImplicit false

inductive Binary64
  /-- The value `mantissa * 2 ^ exponent` with its sign. -/
  | finite (negative : Bool) (mantissa : Nat) (exponent : Int)
  | infinite (negative : Bool)
  /-- No number at all. -/
  | undefined
deriving DecidableEq, Repr, Inhabited

namespace Binary64

-- Powers of core, whatever other instances are in scope.
attribute [local instance (2000)] instPowNat

/-- The integer nearest to a quotient, a tie going to the even one. -/
def roundHalfEven (num den : Nat) : Nat :=
  let q := num / den
  let r := num % den
  if 2 * r < den then q
  else if den < 2 * r then q + 1
  else if q % 2 = 0 then q else q + 1

/-- The quotient `num / den / 2 ^ e` as a quotient of naturals. -/
def scaled (num den : Nat) (e : Int) : Nat × Nat :=
  if 0 ≤ e then (num, den * 2 ^ e.toNat) else (num * 2 ^ (-e).toNat, den)

/-- The exponent at which the quotient has a mantissa of 53 bits, or the least exponent there is. -/
def exponentOf (num den : Nat) : Int :=
  let e : Int := (num.log2 : Int) - den.log2 - 52
  let (n, d) := scaled num den e
  max (if n / d < 2 ^ (52 : Nat) then e - 1 else e) (-1074)

/-- The number nearest to a quotient of naturals. -/
def ofRatio (negative : Bool) (num den : Nat) : Binary64 :=
  if num = 0 then .finite negative 0 0
  else
    let e := exponentOf num den
    let (n, d) := scaled num den e
    let m := roundHalfEven n d
    if 971 < e ∨ (e = 971 ∧ m = 2 ^ (53 : Nat)) then .infinite negative else .finite negative m e

/-- The number nearest to `digits * 10 ^ e`. -/
def ofDecimal (negative : Bool) (digits : Nat) (e : Int) : Binary64 :=
  if digits = 0 then .finite negative 0 0
  else if 400 < e then .infinite negative
  else if e + digits.log2 + 1 < -400 then .finite negative 0 0
  else if 0 ≤ e then ofRatio negative (digits * 10 ^ e.toNat) 1
  else ofRatio negative digits (10 ^ (-e).toNat)

/-- The magnitude without its fraction. -/
def whole (mantissa : Nat) (exponent : Int) : Nat :=
  if 0 ≤ exponent then mantissa * 2 ^ exponent.toNat else mantissa / 2 ^ (-exponent).toNat

/-- The nearest integer toward zero. -/
def truncate? : Binary64 → Option Int
  | .finite negative m e => some (if negative then -(whole m e : Int) else whole m e)
  | _ => none

/-- Whether the number is finite and has no fraction. -/
def isIntegral : Binary64 → Bool
  | .finite _ m e => 0 ≤ e || m % 2 ^ (-e).toNat == 0
  | _ => false

def isFinite : Binary64 → Bool
  | .finite .. => true
  | _ => false

/-- The integer that the number is, if it is one. -/
def toInt? (x : Binary64) : Option Int :=
  if x.isIntegral then x.truncate? else none

def isZero : Binary64 → Bool
  | .finite _ 0 _ => true
  | _ => false

/-- Whether the number lies above zero; what is no number counts as if it did. -/
def isPositive : Binary64 → Bool
  | .finite negative m _ => !negative && m != 0
  | .infinite negative => !negative
  | .undefined => true

end Binary64

end DevEnv
