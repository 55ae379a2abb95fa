import DevEnv.Proofs.Json.Numeral
import DevEnv.Text.Integer
import Mathlib.Data.List.TakeWhile

/-!
The grammar of integer literals. A literal is an optional sign and digits of any script, which single
underscores may part, with white space around them. Exactly the literals are read, and a number is
read back from its text.
-/

namespace DevEnv.Text

set_option autoImplicit false

variable {c : Char} {cs : List Char} {d : Nat} {ds : List Nat} {p : Char → Bool}

/-! ### The grammar -/

/-- Digits with these values, of which any two may have an underscore between them. -/
inductive Grouped : List Char → List Nat → Prop
  | last {c : Char} {d : Nat} : decimalValue? c = some d → Grouped [c] [d]
  | next {c : Char} {d : Nat} {cs : List Char} {ds : List Nat} :
      decimalValue? c = some d → Grouped cs ds → Grouped (c :: cs) (d :: ds)
  | apart {c : Char} {d : Nat} {cs : List Char} {ds : List Nat} :
      decimalValue? c = some d → Grouped cs ds → Grouped (c :: '_' :: cs) (d :: ds)

/-- A sign, and whether it is a minus. -/
inductive Sign : List Char → Bool → Prop
  | none : Sign [] false
  | plus : Sign ['+'] false
  | minus : Sign ['-'] true

/-- The text is a literal of this integer, and not too long to be read. -/
inductive Literal : List Char → Int → Prop
  | intro {before sign body after : List Char} {negative : Bool} {ds : List Nat}
      (blank : ∀ c ∈ before, isWhiteSpace c = true) (blank' : ∀ c ∈ after, isWhiteSpace c = true)
      (marked : Sign sign negative) (grouped : Grouped body ds) (short : ds.length ≤ maxDigits) :
      Literal (before ++ (sign ++ body ++ after)) (signed negative (ofDigits ds))

/-! ### Digits -/

/-- No digit of any script is white space. -/
theorem isWhiteSpace_of_digit (h : decimalValue? c = some d) : isWhiteSpace c = false := by
  have apart : ∀ base ∈ zeroDigits, 0x30 ≤ base ∧ (base + 9 < 0x85 ∨ 0xA0 < base) ∧
      (base + 9 < 0x1680 ∨ 0x1680 < base) ∧ (base + 9 < 0x2000 ∨ 0x3000 < base) := by decide
  obtain ⟨base, known, value⟩ := List.exists_of_findSome?_eq_some h
  have := apart base known
  split at value
  · simp only [isWhiteSpace, Bool.or_eq_false_iff, Bool.and_eq_false_iff, decide_eq_false_iff_not,
      beq_eq_false_iff_ne]
    omega
  · cases value

theorem decimalValue?_of_isDigit (h : c.isDigit = true) : decimalValue? c = some (c.toNat - 48) := by
  obtain ⟨low, high⟩ : 48 ≤ c.toNat ∧ c.toNat ≤ 57 := Char.isDigit_iff_toNat.mp h
  rw [decimalValue?, zeroDigits, List.findSome?_cons, if_pos ⟨low, by omega⟩]

theorem ne_of_digit {e : Char} (h : decimalValue? c = some d) (none : decimalValue? e = none) :
    c ≠ e := by
  rintro rfl
  rw [none] at h
  cases h

theorem grouped_of_digits (nonempty : cs ≠ []) (digits : ∀ c ∈ cs, c.isDigit = true) :
    Grouped cs (cs.map fun c => c.toNat - 48) := by
  induction cs with
  | nil => exact absurd rfl nonempty
  | cons c cs ih =>
    have first := decimalValue?_of_isDigit (digits c List.mem_cons_self)
    cases cs with
    | nil => exact .last first
    | cons d ds => exact .next first (ih (List.cons_ne_nil d ds) fun e he => digits e (.tail c he))

theorem Grouped.head (h : Grouped cs ds) : ∃ c rest d, cs = c :: rest ∧ decimalValue? c = some d := by
  cases h with
  | last digit => exact ⟨_, _, _, rfl, digit⟩
  | next digit => exact ⟨_, _, _, rfl, digit⟩
  | apart digit => exact ⟨_, _, _, rfl, digit⟩

theorem Grouped.getLast (h : Grouped cs ds) :
    ∃ front c d, cs = front ++ [c] ∧ decimalValue? c = some d := by
  induction h with
  | last digit => exact ⟨[], _, _, rfl, digit⟩
  | next _ _ ih =>
    obtain ⟨front, c, d, rfl, digit⟩ := ih
    exact ⟨_ :: front, c, d, rfl, digit⟩
  | apart _ _ ih =>
    obtain ⟨front, c, d, rfl, digit⟩ := ih
    exact ⟨_ :: '_' :: front, c, d, rfl, digit⟩

theorem groupedDigits_of_grouped (h : Grouped cs ds) : groupedDigits decimalValue? cs = some ds := by
  induction h with
  | last digit => rw [groupedDigits, digit]; rfl
  | @next c d cs ds digit rest ih =>
    obtain ⟨c', cs, d', rfl, digit'⟩ := rest.head
    rw [groupedDigits, digit, ih]
    · rfl
    · exact ne_of_digit digit' (by decide)
  | apart digit _ ih => rw [groupedDigits, digit, ih]; rfl

theorem grouped_of_groupedDigits (h : groupedDigits decimalValue? cs = some ds) : Grouped cs ds := by
  fun_induction groupedDigits decimalValue? cs generalizing ds with
  | case1 => cases h
  | case2 c =>
    obtain ⟨d, digit, rfl⟩ := Option.map_eq_some_iff.mp h
    exact .last digit
  | case3 c rest ih =>
    obtain ⟨d, digit, h⟩ := Option.bind_eq_some_iff.mp h
    obtain ⟨ds, others, h⟩ := Option.bind_eq_some_iff.mp h
    obtain rfl := Option.some.inj h
    exact .apart digit (ih others)
  | case4 c next rest _ ih =>
    obtain ⟨d, digit, h⟩ := Option.bind_eq_some_iff.mp h
    obtain ⟨ds, others, h⟩ := Option.bind_eq_some_iff.mp h
    obtain rfl := Option.some.inj h
    exact .next digit (ih others)

/-! ### Trimming -/

/-- What is trimmed away lies around what is left. -/
theorem exists_trim (p : Char → Bool) (cs : List Char) : ∃ before after,
    cs = before ++ (trim p cs ++ after) ∧ (∀ c ∈ before, p c = true) ∧ ∀ c ∈ after, p c = true := by
  refine ⟨cs.takeWhile p, ((cs.dropWhile p).reverse.takeWhile p).reverse, ?_, ?_, ?_⟩
  · rw [trim, dropTrailing, ← List.reverse_append, List.takeWhile_append_dropWhile,
      List.reverse_reverse, List.takeWhile_append_dropWhile]
  · intro c hc
    exact List.mem_takeWhile_imp hc
  · intro c hc
    exact List.mem_takeWhile_imp (List.mem_reverse.mp hc)

/-- What begins and ends otherwise is left by trimming. -/
theorem trim_append {before core after front rest : List Char} {first last : Char}
    (filled : ∀ c ∈ before, p c = true) (filled' : ∀ c ∈ after, p c = true)
    (begins : core = first :: rest) (hfirst : p first = false)
    (ends : core = front ++ [last]) (hlast : p last = false) :
    trim p (before ++ (core ++ after)) = core := by
  have start : (before ++ (core ++ after)).dropWhile p = core ++ after := by
    rw [List.dropWhile_append_of_pos filled, begins]
    exact List.dropWhile_cons_of_neg (by simp [hfirst])
  have stop : (core ++ after).reverse.dropWhile p = core.reverse := by
    have filled' : ∀ c ∈ after.reverse, p c = true := fun c hc =>
      filled' c (List.mem_reverse.mp hc)
    rw [List.reverse_append, List.dropWhile_append_of_pos filled', ends, List.reverse_append,
      List.reverse_singleton]
    exact List.dropWhile_cons_of_neg (by simp [hlast])
  rw [trim, start, dropTrailing, stop, List.reverse_reverse]

/-! ### Reading -/

theorem splitSign_append {sign body : List Char} {negative : Bool} (h : Sign sign negative)
    (grouped : Grouped body ds) : splitSign (sign ++ body) = (negative, body) := by
  cases h with
  | plus => rfl
  | minus => rfl
  | none =>
    obtain ⟨c, rest, d, rfl, digit⟩ := grouped.head
    rw [List.nil_append, splitSign]
    · intro rest' same
      exact ne_of_digit digit (by decide) (List.cons.inj same).1
    · intro rest' same
      exact ne_of_digit digit (by decide) (List.cons.inj same).1

theorem exists_sign (cs : List Char) :
    ∃ sign, Sign sign (splitSign cs).1 ∧ cs = sign ++ (splitSign cs).2 := by
  unfold splitSign
  split
  · exact ⟨_, .minus, rfl⟩
  · exact ⟨_, .plus, rfl⟩
  · exact ⟨_, .none, rfl⟩

/-- White space around a signed group of digits is what trimming removes. -/
theorem trim_literal {before sign body after : List Char} {negative : Bool}
    (blank : ∀ c ∈ before, isWhiteSpace c = true) (blank' : ∀ c ∈ after, isWhiteSpace c = true)
    (marked : Sign sign negative) (grouped : Grouped body ds) :
    trim isWhiteSpace (before ++ (sign ++ body ++ after)) = sign ++ body := by
  obtain ⟨front, last, d, ends, digit⟩ := grouped.getLast
  have ends' : sign ++ body = (sign ++ front) ++ [last] := by rw [ends, List.append_assoc]
  have hlast := isWhiteSpace_of_digit digit
  cases marked with
  | none =>
    obtain ⟨first, rest, d, begins, digit⟩ := grouped.head
    exact trim_append blank blank' begins (isWhiteSpace_of_digit digit) ends' hlast
  | plus => exact trim_append blank blank' rfl (by decide) ends' hlast
  | minus => exact trim_append blank blank' rfl (by decide) ends' hlast

/-- Exactly the literals are read. -/
theorem integer?_eq_some_iff {s : String} {n : Int} : integer? s = some n ↔ Literal s.toList n := by
  constructor
  · intro h
    unfold integer? at h
    obtain ⟨before, after, whole, blank, blank'⟩ := exists_trim isWhiteSpace s.toList
    obtain ⟨sign, marked, split⟩ := exists_sign (trim isWhiteSpace s.toList)
    generalize splitSign (trim isWhiteSpace s.toList) = parts at h marked split
    obtain ⟨ds, grouped, h⟩ := Option.bind_eq_some_iff.mp h
    obtain ⟨magnitude, bounded, h⟩ := Option.bind_eq_some_iff.mp h
    obtain rfl := Option.some.inj h
    unfold bounded? at bounded
    split at bounded
    · obtain rfl := Option.some.inj bounded
      rw [whole, split]
      exact .intro blank blank' marked (grouped_of_groupedDigits grouped) ‹_›
    · cases bounded
  · intro h
    unfold integer?
    generalize s.toList = cs at h
    obtain ⟨blank, blank', marked, grouped, short⟩ := h
    rw [trim_literal blank blank' marked grouped, splitSign_append marked grouped]
    simp only [groupedDigits_of_grouped grouped, bounded?, if_pos short, Option.bind_eq_bind,
      Option.bind_some]
    rfl

/-- A number that is not too long is read back from its text. -/
theorem integer?_toString {n : Int} (nonneg : 0 ≤ n)
    (few : (Nat.toDigits 10 n.natAbs).length ≤ maxDigits) : integer? (toString n) = some n := by
  have shown : (toString n).toList = Nat.toDigits 10 n.natAbs := by
    rw [toList_toString, if_neg (Int.not_lt.mpr nonneg)]
  have noBlank : ∀ c ∈ ([] : List Char), isWhiteSpace c = true := nofun
  have literal := Literal.intro noBlank noBlank .none
    (grouped_of_digits Nat.toDigits_ne_nil (isDigit_toDigits n.natAbs)) (by rwa [List.length_map])
  have value : signed false n.natAbs = n := Int.natAbs_of_nonneg nonneg
  rw [ofDigits_toDigits, value, List.nil_append, List.nil_append, List.append_nil] at literal
  rwa [integer?_eq_some_iff, shown]

theorem integer?_of_small {n : Int} (nonneg : 0 ≤ n) (small : n < 100000) :
    integer? (toString n) = some n := by
  refine integer?_toString nonneg ?_
  have few : (Nat.toDigits 10 n.natAbs).length ≤ 5 :=
    (Nat.length_toDigits_le_iff (by decide) (by decide)).mpr (by omega)
  exact few.trans (by decide)

end DevEnv.Text
