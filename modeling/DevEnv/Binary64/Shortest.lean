import DevEnv.Binary64

/-!
The shortest decimal numeral of a binary number: the fewest digits that read back as the number, and
of those the nearest to it. All comparisons are made in exact integer arithmetic.
-/

namespace DevEnv.Binary64

set_option autoImplicit false

-- Powers of core, whatever other instances are in scope.
attribute [local instance (2000)] instPowNat

/-- The value `digits * 10 ^ power`. -/
structure Decimal where
  digits : Nat
  power : Int
deriving DecidableEq, Repr

/-- The mantissa and exponent with a mantissa below `2 ^ 53`. -/
def normalized (m : Nat) (e : Int) : Nat × Int :=
  if m = 2 ^ (53 : Nat) then (2 ^ (52 : Nat), e + 1) else (m, e)

/-- How many decimal digits stand before the point; for a number below one, the zeros right after
the point count down from zero. -/
def pointPosition (m : Nat) (e : Int) : Int :=
  let (num, den) := scaled (m * 10 ^ (340 : Nat)) 1 (-e)
  ((Nat.toDigits 10 (num / den)).length : Int) - 340

/-- The multiple of `10 ^ power` that reads back as the number, the nearest one if there are two. -/
def onGrid (m : Nat) (e power : Int) : Option Nat :=
  let up := 2 ^ e.toNat * 10 ^ (-power).toNat
  let unit := 4 * 2 ^ (-e).toNat * 10 ^ power.toNat
  let value := 4 * m * up
  let below := (if m = 2 ^ (52 : Nat) ∧ -1074 < e then 1 else 2) * up
  let above := 2 * up
  let floor := value / unit
  let reads (n : Nat) : Bool :=
    if m % 2 = 0 then value ≤ n * unit + below ∧ n * unit ≤ value + above
    else value < n * unit + below ∧ n * unit < value + above
  let rest := value % unit
  let first := if 2 * rest < unit ∨ (2 * rest = unit ∧ floor % 2 = 0) then floor else floor + 1
  let second := if first = floor then floor + 1 else floor
  if reads first then some first else if reads second then some second else none

/-- The shortest decimal of a positive number. -/
def shortest (m : Nat) (e : Int) : Decimal :=
  let (m, e) := normalized m e
  let point := pointPosition m e
  let found := (List.range 18).tail.findSome? fun (count : Nat) =>
    let power : Int := point - count
    (onGrid m e power).map fun n => (⟨n, power⟩ : Decimal)
  found.getD ⟨m * 2 ^ e.toNat, 0⟩

end DevEnv.Binary64
