import DevEnv.Text.Digit
import Mathlib.Data.List.Induction

/-!
Numbers in a fixed count of decimal digits, zeros in front included.
-/

namespace DevEnv.Text

set_option autoImplicit false

-- Powers of core, as in the definitions.
attribute [local instance (2000)] instPowNat

/-- The last `width` decimal digits of a number. -/
def decimal : Nat → Nat → List Char
  | 0, _ => []
  | width + 1, n => decimal width (n / 10) ++ [Nat.digitChar (n % 10)]

theorem digitChar_spec {d : Nat} (h : d < 10) :
    (Nat.digitChar d).isDigit = true ∧ (Nat.digitChar d).toNat - 48 = d := by
  have all : ∀ d, d < 10 → (Nat.digitChar d).isDigit = true ∧ (Nat.digitChar d).toNat - 48 = d := by
    decide
  exact all d h

theorem length_decimal (width n : Nat) : (decimal width n).length = width := by
  induction width generalizing n with
  | zero => rfl
  | succ width ih => rw [decimal, List.length_append, ih, List.length_singleton]

theorem isDigit_decimal (width n : Nat) : ∀ c ∈ decimal width n, c.isDigit = true := by
  induction width generalizing n with
  | zero => nofun
  | succ width ih =>
    intro c hc
    rcases List.mem_append.mp hc with front | last
    · exact ih (n / 10) c front
    · rw [List.mem_singleton.mp last]
      exact (digitChar_spec (Nat.mod_lt n (by decide))).1

theorem ofDigits_append_singleton (ds : List Nat) (d : Nat) :
    ofDigits (ds ++ [d]) = 10 * ofDigits ds + d := by
  rw [ofDigits, List.foldl_append]
  rfl

theorem ofDigits_decimal {width n : Nat} (h : n < 10 ^ width) :
    ofDigits ((decimal width n).map fun c => c.toNat - 48) = n := by
  induction width generalizing n with
  | zero =>
    obtain rfl : n = 0 := by omega
    rfl
  | succ width ih =>
    rw [Nat.pow_succ] at h
    rw [decimal, List.map_append, List.map_singleton, ofDigits_append_singleton, ih (by omega),
      (digitChar_spec (Nat.mod_lt n (by decide))).2]
    omega

/-- A number written without zeros in front, if it has this many digits. -/
theorem toDigits_eq_decimal {width n : Nat} (low : 10 ^ width ≤ n) (high : n < 10 ^ (width + 1)) :
    Nat.toDigits 10 n = decimal (width + 1) n := by
  induction width generalizing n with
  | zero =>
    have single : n < 10 := high
    rw [Nat.toDigits_of_lt_base single, decimal, decimal, List.nil_append, Nat.mod_eq_of_lt single]
  | succ width ih =>
    rw [Nat.pow_succ] at low high
    have more : 10 ≤ n := by
      have := @Nat.pow_pos 10 width (by decide)
      omega
    rw [Nat.toDigits_of_base_le (by decide) more, decimal, ih (by omega) (by omega)]

/-- Digits that come to less than a power of ten. -/
theorem ofDigits_lt {cs : List Char} (digits : ∀ c ∈ cs, c.isDigit = true) :
    ofDigits (cs.map fun c => c.toNat - 48) < 10 ^ cs.length := by
  induction cs using List.reverseRecOn with
  | nil => decide
  | append_singleton cs c ih =>
    have front := ih fun d hd => digits d (List.mem_append_left _ hd)
    obtain ⟨low, high⟩ : 48 ≤ c.toNat ∧ c.toNat ≤ 57 :=
      Char.isDigit_iff_toNat.mp (digits c (List.mem_append_right _ List.mem_cons_self))
    rw [List.map_append, List.map_singleton, ofDigits_append_singleton, List.length_append,
      List.length_singleton, Nat.pow_succ]
    omega

end DevEnv.Text
