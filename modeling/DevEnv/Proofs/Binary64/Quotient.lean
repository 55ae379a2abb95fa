import DevEnv.Binary64

/-!
Rounded quotients that are cut to integers. Rounding a quotient to a binary number never carries it
over the next integer as long as that integer is more than half a step of the mantissa away.
-/

namespace DevEnv.Binary64

set_option autoImplicit false

-- Powers of core, as in the definitions.
attribute [local instance (2000)] instPowNat

variable {num den : Nat}

/-! ### The mantissa -/

theorem div_le_roundHalfEven (num den : Nat) : num / den ≤ roundHalfEven num den := by
  simp only [roundHalfEven]
  split
  · exact Nat.le_refl _
  · split
    · exact Nat.le_succ _
    · split
      · exact Nat.le_refl _
      · exact Nat.le_succ _

theorem roundHalfEven_le (num den : Nat) : roundHalfEven num den ≤ num / den + 1 := by
  simp only [roundHalfEven]
  split
  · exact Nat.le_succ _
  · split
    · exact Nat.le_refl _
    · split
      · exact Nat.le_succ _
      · exact Nat.le_refl _

/-- What lies more than half below an integer is rounded to a lesser one. -/
theorem roundHalfEven_lt {m : Nat} (pos : 0 < den) (below : 2 * num + den < 2 * (m * den)) :
    roundHalfEven num den < m := by
  have whole := Nat.div_add_mod num den
  have rest := Nat.mod_lt num pos
  have under : num / den < m := by
    apply (Nat.div_lt_iff_lt_mul pos).mpr
    omega
  rcases Nat.lt_or_ge (num / den + 1) m with far | near
  · exact Nat.lt_of_le_of_lt (roundHalfEven_le num den) far
  · obtain rfl : m = num / den + 1 := by omega
    have next : (num / den + 1) * den = den * (num / den) + den := by
      rw [Nat.succ_mul, Nat.mul_comm (num / den)]
    have down : 2 * (num % den) < den := by omega
    simp only [roundHalfEven, if_pos down]
    exact Nat.lt_succ_self _

/-! ### The exponent -/

theorem scaled_neg {k : Nat} (h : 1 ≤ k) : scaled num den (-(k : Int)) = (num * 2 ^ k, den) := by
  have below : ¬ (0 : Int) ≤ -(k : Int) := by omega
  rw [scaled, if_neg below, Int.neg_neg, Int.toNat_natCast]

/-- The exponent leaves room for a fraction of `k` bits in front of a quotient of few enough bits. -/
theorem exponentOf_le {k : Nat} (low : 1 ≤ k) (high : k ≤ 53) (positive : num ≠ 0)
    (bound : num < 2 ^ (53 - k) * den) : exponentOf num den ≤ -(k : Int) := by
  have someDen : den ≠ 0 := by
    rintro rfl
    exact absurd bound (Nat.not_lt_zero _)
  have logs : num.log2 < 54 - k + den.log2 := by
    apply (Nat.pow_lt_pow_iff_right (by decide : 1 < 2)).mp
    calc 2 ^ num.log2 ≤ num := Nat.log2_self_le positive
      _ < 2 ^ (53 - k) * den := bound
      _ < 2 ^ (53 - k) * 2 ^ (den.log2 + 1) :=
        Nat.mul_lt_mul_of_pos_left Nat.lt_log2_self (Nat.two_pow_pos _)
      _ = 2 ^ (54 - k + den.log2) := by
        rw [← Nat.pow_add]
        congr 1
        omega
  simp only [exponentOf]
  split
  · omega
  · rename_i full
    -- A quotient with a full mantissa at a greater exponent would have too many bits.
    by_cases edge : (num.log2 : Int) - den.log2 - 52 = -((k - 1 : Nat) : Int)
    · exfalso
      apply full
      rw [edge]
      by_cases one : k = 1
      · subst one
        have plain : scaled num den (-((1 - 1 : Nat) : Int)) = (num, den * 1) := rfl
        rw [plain, Nat.mul_one]
        apply (Nat.div_lt_iff_lt_mul (by omega)).mpr
        exact bound
      · rw [scaled_neg (by omega)]
        apply (Nat.div_lt_iff_lt_mul (by omega)).mpr
        calc num * 2 ^ (k - 1) < 2 ^ (53 - k) * den * 2 ^ (k - 1) :=
              Nat.mul_lt_mul_of_pos_right bound (Nat.two_pow_pos _)
          _ = 2 ^ 52 * den := by
            rw [Nat.mul_right_comm, ← Nat.pow_add]
            congr 2
            omega
    · omega

/-! ### The integer -/

/-- A mantissa with `j` bits behind the point lies between the quotient's integer and the next one,
if that is more than half of the last bit away. -/
theorem mantissa_bounds {j : Nat} (pos : 0 < den)
    (away : den < 2 ^ (j + 1) * (den - num % den)) :
    num / den * 2 ^ j ≤ roundHalfEven (num * 2 ^ j) den ∧
      roundHalfEven (num * 2 ^ j) den < (num / den + 1) * 2 ^ j := by
  constructor
  · refine Nat.le_trans ?_ (div_le_roundHalfEven _ _)
    rw [Nat.le_div_iff_mul_le pos, Nat.mul_right_comm]
    exact Nat.mul_le_mul_right _ (Nat.div_mul_le_self num den)
  · apply roundHalfEven_lt pos
    have whole := Nat.div_add_mod num den
    have rest := Nat.mod_lt num pos
    have gap : num + (den - num % den) = (num / den + 1) * den := by
      rw [Nat.succ_mul, Nat.mul_comm (num / den)]
      omega
    have step : den < 2 * ((den - num % den) * 2 ^ j) := by
      rwa [Nat.pow_succ, Nat.mul_right_comm, Nat.mul_comm, Nat.mul_comm (2 ^ j)] at away
    calc 2 * (num * 2 ^ j) + den
        < 2 * (num * 2 ^ j) + 2 * ((den - num % den) * 2 ^ j) := Nat.add_lt_add_left step _
      _ = 2 * ((num / den + 1) * 2 ^ j * den) := by
        rw [← Nat.mul_add, ← Nat.add_mul, gap, Nat.mul_right_comm]

/-- Rounding a quotient keeps its integer. A quotient with at most `53 - k` bits in front of the
point has a mantissa with at least `k` bits behind it. -/
theorem truncate?_ofRatio {k : Nat} (negative : Bool) (low : 1 ≤ k) (high : k ≤ 53)
    (bound : num < 2 ^ (53 - k) * den) (away : den < 2 ^ (k + 1) * (den - num % den)) :
    (ofRatio negative num den).truncate? =
      some (if negative then -((num / den : Nat) : Int) else (num / den : Nat)) := by
  have pos : 0 < den := by
    apply Nat.pos_of_ne_zero
    rintro rfl
    exact absurd bound (Nat.not_lt_zero _)
  unfold ofRatio
  split
  · rename_i zero
    rw [zero, Nat.zero_div]
    cases negative <;> rfl
  · rename_i positive
    have small := exponentOf_le low high positive bound
    obtain ⟨j, exponent⟩ : ∃ j : Nat, exponentOf num den = -(j : Int) :=
      ⟨(-exponentOf num den).toNat, by omega⟩
    have fine : k ≤ j := by omega
    have away' : den < 2 ^ (j + 1) * (den - num % den) :=
      Nat.lt_of_lt_of_le away
        (Nat.mul_le_mul_right _ (Nat.pow_le_pow_right (by decide) (Nat.succ_le_succ fine)))
    obtain ⟨low', high'⟩ := mantissa_bounds pos away'
    have finite : ¬ (971 < -(j : Int) ∨ (-(j : Int) = 971 ∧
        roundHalfEven (num * 2 ^ j) den = 2 ^ (53 : Nat))) := by omega
    have cut : whole (roundHalfEven (num * 2 ^ j) den) (-(j : Int)) = num / den := by
      have below : ¬ (0 : Int) ≤ -(j : Int) := by omega
      rw [whole, if_neg below, Int.neg_neg, Int.toNat_natCast]
      exact Nat.div_eq_of_lt_le low' high'
    simp only [exponent, scaled_neg (Nat.le_trans low fine), if_neg finite, truncate?, cut]

end DevEnv.Binary64
