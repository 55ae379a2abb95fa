import DevEnv.Json.Parser
import Mathlib.Data.List.TakeDrop

/-!
Integers of JSON text. A written integer is read back in front of anything that cannot belong to a
number, unless it has more digits than are allowed.
-/

namespace DevEnv

set_option autoImplicit false

namespace Text

theorem ofDigits_toDigits (n : Nat) :
    ofDigits ((Nat.toDigits 10 n).map fun c => c.toNat - 48) = n := by
  have hread := Nat.ofDigitChars_ten_toDigits (n := n)
  rw [Nat.ofDigitChars_eq_foldl] at hread
  rw [ofDigits, List.foldl_map]
  exact hread

theorem isDigit_toDigits (n : Nat) : ∀ c ∈ Nat.toDigits 10 n, c.isDigit = true :=
  fun _ hc => Nat.isDigit_of_mem_toDigits (by decide) (by decide) hc

/-- Only zero is written with a zero in front. -/
theorem toDigits_eq_zero_cons {n : Nat} {cs : List Char} (h : Nat.toDigits 10 n = '0' :: cs) :
    cs = [] := by
  have hpos : ∀ n, 0 < n → ∀ cs, Nat.toDigits 10 n ≠ '0' :: cs := by
    intro n
    -- The digits in front of the last one are those of `n / 10`.
    induction n using Nat.strongRecOn with
    | ind n ih =>
      intro hn cs
      by_cases hlt : n < 10
      · rw [Nat.toDigits_of_lt_base hlt]
        intro heq
        have hzero := (List.cons.inj heq).1
        rw [Nat.digitChar_eq_zero] at hzero
        omega
      · rw [Nat.toDigits_of_base_le (by decide) (by omega)]
        have hfront := ih (n / 10) (by omega) (by omega)
        cases hdigits : Nat.toDigits 10 (n / 10) with
        | nil => exact absurd hdigits Nat.toDigits_ne_nil
        | cons d ds =>
          rw [List.cons_append]
          intro heq
          rw [(List.cons.inj heq).1] at hdigits
          exact hfront ds hdigits
  rcases Nat.eq_zero_or_pos n with rfl | hn
  · rw [Nat.toDigits_zero] at h
    exact (List.cons.inj h).2.symm
  · exact absurd h (hpos n hn cs)

theorem toList_toString (n : Int) :
    (toString n).toList =
      if n < 0 then '-' :: Nat.toDigits 10 n.natAbs else Nat.toDigits 10 n.natAbs := by
  cases n with
  | ofNat n =>
    rw [if_neg (by exact Int.not_lt.mpr (Int.natCast_nonneg n))]
    exact Nat.toList_repr
  | negSucc n =>
    rw [if_pos (Int.negSucc_lt_zero n)]
    have hminus : (toString (Int.negSucc n)).toList = ("-" ++ (n + 1).repr).toList := rfl
    rw [hminus, String.toList_append, Nat.toList_repr]
    rfl

end Text

namespace Json

/-- How many digits an integer has. -/
def digitCount (n : Int) : Nat := (Nat.toDigits 10 n.natAbs).length

/-- The text is empty or begins with what no number goes on with. -/
def EndsNumber (rest : List Char) : Prop :=
  ∀ c ∈ rest.head?, c.isDigit = false ∧ c ≠ '.' ∧ c ≠ 'e' ∧ c ≠ 'E'

theorem endsNumber_nil : EndsNumber [] := by
  intro c hc
  cases hc

theorem endsNumber_cons {c : Char} (rest : List Char)
    (h : c.isDigit = false ∧ c ≠ '.' ∧ c ≠ 'e' ∧ c ≠ 'E') : EndsNumber (c :: rest) := by
  intro d hd
  rw [List.head?_cons, Option.mem_some_iff] at hd
  rwa [← hd]

theorem digits_append {ds rest : List Char} (hds : ∀ c ∈ ds, c.isDigit = true)
    (hrest : EndsNumber rest) : digits (ds ++ rest) = (ds, rest) := by
  have hstop : rest.takeWhile Char.isDigit = [] ∧ rest.dropWhile Char.isDigit = rest := by
    cases rest with
    | nil => exact ⟨rfl, rfl⟩
    | cons c rest =>
      have hc := (hrest c rfl).1
      exact ⟨List.takeWhile_cons_of_neg (by simp [hc]), List.dropWhile_cons_of_neg (by simp [hc])⟩
  rw [digits, List.span_eq_takeWhile_dropWhile, List.takeWhile_append_of_pos hds,
    List.dropWhile_append_of_pos hds, hstop.1, hstop.2, List.append_nil]

theorem fraction_of_endsNumber {rest : List Char} (h : EndsNumber rest) :
    fraction rest = ([], rest) := by
  cases rest with
  | nil => rfl
  | cons c rest =>
    have hc := (h c rfl).2.1
    rw [fraction]
    intro more heq
    exact hc (List.cons.inj heq).1

theorem exponent_of_endsNumber {rest : List Char} (h : EndsNumber rest) :
    exponent rest = (none, rest) := by
  cases rest with
  | nil => rfl
  | cons c rest =>
    obtain ⟨-, -, hlower, hupper⟩ := h c rfl
    simp [exponent, hlower, hupper]

theorem digitsValue_toDigits (n : Nat) : digitsValue (Nat.toDigits 10 n) = n :=
  Text.ofDigits_toDigits n

theorem numeralDigits_toDigits {rest : List Char} (hrest : EndsNumber rest) (n : Nat) :
    numeralDigits (Nat.toDigits 10 n ++ rest) = (Nat.toDigits 10 n, rest) := by
  unfold numeralDigits
  split
  · rename_i more heq
    cases hdigits : Nat.toDigits 10 n with
    | nil => exact absurd hdigits Nat.toDigits_ne_nil
    | cons d ds =>
      rw [hdigits, List.cons_append] at heq
      obtain ⟨rfl, rfl⟩ := List.cons.inj heq
      rw [Text.toDigits_eq_zero_cons hdigits, List.nil_append]
  · exact digits_append (Text.isDigit_toDigits n) hrest

theorem unsigned_toDigits {limit : DigitLimit} {rest : List Char} (hrest : EndsNumber rest)
    (negative : Bool) (n : Nat) :
    unsigned limit negative (Nat.toDigits 10 n ++ rest) =
      if limit.allows (Nat.toDigits 10 n).length then
        .ok (.integer (Text.signed negative n), rest)
      else .error .integerTooLong := by
  have hne : (Nat.toDigits 10 n).isEmpty = false := by
    simp [Nat.toDigits_ne_nil]
  unfold unsigned
  rw [numeralDigits_toDigits hrest]
  simp only [hne, fraction_of_endsNumber hrest, exponent_of_endsNumber hrest,
    digitsValue_toDigits]
  rfl

/-! ### Words and numbers -/

theorem scalar_of_word {limit : DigitLimit} {cs rest : List Char} {v : Json}
    (h : word? cs = some (v, rest)) : scalar limit cs = .ok (v, rest) := by
  unfold scalar
  rw [h]

/-- What is no word is a number, with or without a sign. -/
theorem scalar_of_no_word {limit : DigitLimit} {c : Char} {cs : List Char}
    (h : word? (c :: cs) = none) :
    scalar limit (c :: cs) =
      if c = '-' then unsigned limit true cs else unsigned limit false (c :: cs) := by
  unfold scalar
  rw [h]
  dsimp only
  split
  · rename_i heq
    obtain ⟨rfl, rfl⟩ := List.cons.inj heq
    rfl
  · rename_i hminus
    exact (if_neg fun hc => hminus cs (by rw [hc])).symm

theorem after?_of_ne {w c : Char} (h : w ≠ c) (ws cs : List Char) :
    after? (w :: ws) (c :: cs) = none := if_neg h

theorem after?_cons (c : Char) (ws cs : List Char) : after? (c :: ws) (c :: cs) = after? ws cs :=
  if_pos rfl

/-- No word begins with a digit, whatever sign stands in front of it. -/
theorem word?_of_digit {d : Char} (hd : d.isDigit = true) (cs : List Char) :
    word? (d :: cs) = none ∧ word? ('-' :: d :: cs) = none := by
  have hne : ∀ c : Char, c.isDigit = false → c ≠ d := by
    rintro c hc rfl
    rw [hc] at hd
    cases hd
  have hwords : words = [
      (['n', 'u', 'l', 'l'], .null), (['t', 'r', 'u', 'e'], .bool true),
      (['f', 'a', 'l', 's', 'e'], .bool false), (['N', 'a', 'N'], .real .undefined),
      (['I', 'n', 'f', 'i', 'n', 'i', 't', 'y'], .real (.infinite false)),
      (['-', 'I', 'n', 'f', 'i', 'n', 'i', 't', 'y'], .real (.infinite true))] := rfl
  unfold word?
  constructor
  · simp only [hwords, List.findSome?_cons, List.findSome?_nil, Option.map_none,
      after?_of_ne (hne 'n' rfl), after?_of_ne (hne 't' rfl), after?_of_ne (hne 'f' rfl),
      after?_of_ne (hne 'N' rfl), after?_of_ne (hne 'I' rfl), after?_of_ne (hne '-' rfl)]
  · simp only [hwords, List.findSome?_cons, List.findSome?_nil, Option.map_none, after?_cons,
      after?_of_ne (hne 'I' rfl), after?_of_ne (by decide : 'n' ≠ '-'),
      after?_of_ne (by decide : 't' ≠ '-'), after?_of_ne (by decide : 'f' ≠ '-'),
      after?_of_ne (by decide : 'N' ≠ '-'), after?_of_ne (by decide : 'I' ≠ '-')]

theorem scalar_integer {limit : DigitLimit} {rest : List Char} (hrest : EndsNumber rest) (n : Int) :
    scalar limit ((toString n).toList ++ rest) =
      if limit.allows (digitCount n) then .ok (.integer n, rest) else .error .integerTooLong := by
  obtain ⟨d, ds, hdigits⟩ : ∃ d ds, Nat.toDigits 10 n.natAbs = d :: ds :=
    List.exists_cons_of_ne_nil Nat.toDigits_ne_nil
  have hd : d.isDigit = true := Text.isDigit_toDigits n.natAbs d (by simp [hdigits])
  obtain ⟨hplain, hminus⟩ := word?_of_digit hd (ds ++ rest)
  rw [Text.toList_toString]
  by_cases hn : n < 0
  · have hvalue : Text.signed true n.natAbs = n := by
      simp only [Text.signed, if_true]
      omega
    rw [if_pos hn, List.cons_append, hdigits, List.cons_append, scalar_of_no_word hminus,
      if_pos rfl, ← List.cons_append, ← hdigits, unsigned_toDigits hrest, hvalue]
    rfl
  · have hvalue : Text.signed false n.natAbs = n := by
      simp only [Text.signed, Bool.false_eq_true, if_false]
      omega
    have hsign : d ≠ '-' := by
      rintro rfl
      cases hd
    rw [if_neg hn, hdigits, List.cons_append, scalar_of_no_word hplain, if_neg hsign,
      ← List.cons_append, ← hdigits, unsigned_toDigits hrest, hvalue]
    rfl

end Json

end DevEnv
