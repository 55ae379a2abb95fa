/-!
Sets of characters that are given by ranges of their code points.
-/

namespace DevEnv.Text

set_option autoImplicit false

/-- Whether a code point lies in one of the ranges. -/
def inRanges (ranges : List (Nat × Nat)) (n : Nat) : Bool :=
  ranges.any fun r => r.1 ≤ n && n ≤ r.2

end DevEnv.Text
