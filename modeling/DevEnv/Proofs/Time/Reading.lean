import DevEnv.Proofs.Binary64.Quotient
import DevEnv.Proofs.Text.Decimal
import DevEnv.Proofs.Text.Integer
import DevEnv.Proofs.Time.Calendar
import DevEnv.Time.Timestamp
import Mathlib.Algebra.Group.Int.Defs

/-!
Reading timestamps that are written out: a date with a year of four digits, any one character, a time
of day to the second with or without a fraction, and an offset or none.
-/

namespace DevEnv.Timestamp

set_option autoImplicit false

-- Powers of core, as in the definitions.
attribute [local instance (2000)] instPowNat

open Text

/-! ### Written out -/

/-- A date, its year in four digits. -/
def dateText (d : Date) : List Char :=
  decimal 4 d.year.toNat ++ '-' :: (decimal 2 d.month ++ '-' :: decimal 2 d.day)

def hourMinuteText (hours minutes : Nat) : List Char := decimal 2 hours ++ ':' :: decimal 2 minutes

/-- A time of day to the second. -/
def clockText (hours minutes seconds : Nat) : List Char :=
  decimal 2 hours ++ ':' :: (decimal 2 minutes ++ ':' :: decimal 2 seconds)

variable {d : Date} {hours minutes seconds : Nat} {ds rest : List Char}

theorem length_dateText (d : Date) : (dateText d).length = 10 := rfl

theorem ne_of_isDigit {c e : Char} (h : c.isDigit = true) (none : e.isDigit = false) : c ≠ e := by
  rintro rfl
  rw [none] at h
  cases h

theorem not_mem_dateText (d : Date) {e : Char} (noDigit : e.isDigit = false) (h : e ≠ '-') :
    e ∉ dateText d := by
  intro he
  simp only [dateText, List.mem_append, List.mem_cons, h, false_or] at he
  rcases he with year | month | day
  · exact ne_of_isDigit (isDigit_decimal _ _ e year) noDigit rfl
  · exact ne_of_isDigit (isDigit_decimal _ _ e month) noDigit rfl
  · exact ne_of_isDigit (isDigit_decimal _ _ e day) noDigit rfl

theorem not_mem_clockText (hours minutes seconds : Nat) {e : Char} (noDigit : e.isDigit = false)
    (h : e ≠ ':') : e ∉ clockText hours minutes seconds := by
  intro he
  simp only [clockText, List.mem_append, List.mem_cons, h, false_or] at he
  rcases he with hour | minute | second
  · exact ne_of_isDigit (isDigit_decimal _ _ e hour) noDigit rfl
  · exact ne_of_isDigit (isDigit_decimal _ _ e minute) noDigit rfl
  · exact ne_of_isDigit (isDigit_decimal _ _ e second) noDigit rfl

/-- A date, any mark and a clock hold no other characters than digits, their separators and the mark. -/
theorem not_mem_dateTime (d : Date) (hours minutes seconds : Nat) {mark e : Char}
    (noDigit : e.isDigit = false) (noHyphen : e ≠ '-') (noMark : e ≠ mark) (noColon : e ≠ ':') :
    e ∉ dateText d ++ mark :: clockText hours minutes seconds := by
  intro he
  rcases List.mem_append.mp he with date | rest
  · exact not_mem_dateText d noDigit noHyphen date
  · rcases List.mem_cons.mp rest with mark | clock
    · exact noMark mark
    · exact not_mem_clockText hours minutes seconds noDigit noColon clock

theorem isSign_clockText (hours minutes seconds : Nat) :
    ∀ c ∈ clockText hours minutes seconds, isSign c = false := by
  intro c hc
  simp only [isSign, Bool.or_eq_false_iff, beq_eq_false_iff_ne]
  constructor
  · rintro rfl
    exact not_mem_clockText _ _ _ (by decide) (by decide) hc
  · rintro rfl
    exact not_mem_clockText _ _ _ (by decide) (by decide) hc

/-! ### Numbers -/

theorem number?_append (digits : ∀ c ∈ ds, c.isDigit = true) (rest : List Char) :
    number? ds.length (ds ++ rest) = some (ofDigits (ds.map fun c => c.toNat - 48), rest) := by
  have all : ds.all Char.isDigit = true := List.all_eq_true.mpr digits
  rw [number?, List.take_left, List.drop_left]
  exact if_pos ⟨rfl, all⟩

theorem number?_decimal (width : Nat) {n : Nat} (h : n < 10 ^ width) (rest : List Char) :
    number? width (decimal width n ++ rest) = some (n, rest) := by
  have read := number?_append (isDigit_decimal width n) rest
  rwa [length_decimal, ofDigits_decimal h] at read

theorem number?_two {n : Nat} (h : n < 100) : number? 2 (decimal 2 n) = some (n, []) := by
  have read := number?_decimal 2 h []
  rwa [List.append_nil] at read

/-! ### The date -/

theorem digitChar_ne (n : Nat) {e : Char} (none : e.isDigit = false) :
    Nat.digitChar (n % 10) ≠ e :=
  ne_of_isDigit (digitChar_spec (Nat.mod_lt n (by decide))).1 none

theorem dateLength_dateText (d : Date) (rest : List Char) : dateLength (dateText d ++ rest) = 10 := by
  have size : (dateText d ++ rest).length ≠ 7 := by
    rw [List.length_append, length_dateText]
    omega
  have hyphen : (dateText d ++ rest)[4]? = some '-' := rfl
  have digit : (dateText d ++ rest)[5]? ≠ some 'W' := by
    intro week
    exact digitChar_ne (d.month / 10) (by decide) (Option.some.inj week)
  rw [dateLength, if_neg size, if_pos hyphen, if_neg digit]

theorem calendarDate?_decimal (valid : d.isValid = true) :
    calendarDate? d.year true (decimal 2 d.month ++ '-' :: decimal 2 d.day) = some d.toDays := by
  obtain ⟨month, day⟩ := Date.bounds_of_isValid valid
  have month := number?_decimal 2 (show d.month < 10 ^ 2 by omega) ('-' :: decimal 2 d.day)
  have day := number?_two (show d.day < 100 by omega)
  simp only [calendarDate?, month, hyphen?, day, if_true, Option.bind_eq_bind, Option.bind_some,
    List.isEmpty_nil, Bool.true_and]
  exact if_pos valid

theorem date?_dateText (valid : d.isValid = true) (first : 1 ≤ d.year) (last : d.year ≤ 9999) :
    date? (dateText d) = some d.toDays := by
  have natural : (d.year.toNat : Int) = d.year := Int.toNat_of_nonneg (by omega)
  have year := number?_decimal 4 (show d.year.toNat < 10 ^ 4 by omega)
    ('-' :: (decimal 2 d.month ++ '-' :: decimal 2 d.day))
  have known : Calendar.isYear d.year = true := by simp [Calendar.isYear, first, last]
  -- The month does not begin like a week.
  have noWeek : ∀ more, decimal 2 d.month ++ '-' :: decimal 2 d.day ≠ 'W' :: more := by
    intro more week
    exact digitChar_ne (d.month / 10) (by decide) (List.cons.inj week).1
  rw [date?, dateText, year]
  simp only [Option.bind_eq_bind, Option.bind_some]
  rw [natural, calendarDate?_decimal valid, Option.bind_some, Date.yearOf_toDays valid, known]
  rfl

/-! ### The time of day -/

theorem decimal_two_ne_nil (n : Nat) : decimal 2 n ≠ [] := List.cons_ne_nil _ _

theorem clock?_colon (h : hours < 100) (more : rest ≠ []) :
    clock? (decimal 2 hours ++ ':' :: rest) = minutes? hours true rest := by
  obtain ⟨c, cs, rfl⟩ := List.exists_cons_of_ne_nil more
  simp only [clock?, number?_decimal 2 h, Option.bind_eq_bind, Option.bind_some]
  rfl

theorem minutes?_colon (h : minutes < 100) (more : rest ≠ []) :
    minutes? hours true (decimal 2 minutes ++ ':' :: rest) = seconds? hours minutes true rest := by
  obtain ⟨c, cs, rfl⟩ := List.exists_cons_of_ne_nil more
  simp only [minutes?, number?_decimal 2 h, Option.bind_eq_bind, Option.bind_some]
  rfl

theorem clock?_hourMinuteText (hhours : hours < 100) (hminutes : minutes < 100) :
    clock? (hourMinuteText hours minutes) = some (⟨hours, minutes, 0, 0⟩, false) := by
  rw [hourMinuteText, clock?_colon hhours (decimal_two_ne_nil _), minutes?, number?_two hminutes]
  rfl

theorem clock?_clockText (hhours : hours < 100) (hminutes : minutes < 100)
    (hseconds : seconds < 100) :
    clock? (clockText hours minutes seconds) = some (⟨hours, minutes, seconds, 0⟩, false) := by
  rw [clockText, clock?_colon hhours (List.append_ne_nil_of_left_ne_nil (decimal_two_ne_nil _) _),
    minutes?_colon hminutes (decimal_two_ne_nil _), seconds?, number?_two hseconds]
  rfl

/-- A fraction of digits comes to less than a second. -/
theorem fraction?_digits (digits : ∀ c ∈ ds, c.isDigit = true) :
    ∃ micros < 1000000, fraction? ds = some (micros, false) := by
  have front : ∀ c ∈ ds.take 6, c.isDigit = true := fun c hc => digits c (List.mem_of_mem_take hc)
  have back : ∀ c ∈ ds.drop 6, c.isDigit = true := fun c hc => digits c (List.mem_of_mem_drop hc)
  have read := number?_append front (ds.drop 6)
  have small := ofDigits_lt front
  rw [List.take_append_drop, List.length_take] at read
  rw [List.length_take] at small
  refine ⟨ofDigits ((ds.take 6).map fun c => c.toNat - 48) * 10 ^ (6 - min 6 ds.length), ?_, ?_⟩
  · calc _ < 10 ^ min 6 ds.length * 10 ^ (6 - min 6 ds.length) :=
          Nat.mul_lt_mul_of_pos_right small (Nat.pow_pos (by decide))
      _ = 1000000 := by
        rw [← Nat.pow_add, show min 6 ds.length + (6 - min 6 ds.length) = 6 by omega]
  · simp only [fraction?, read, Option.bind_eq_bind, Option.bind_some,
      List.dropWhile_eq_nil_iff.mpr back]
    rfl

theorem clock?_fraction (hhours : hours < 100) (hminutes : minutes < 100)
    (hseconds : seconds < 100) (some' : ds ≠ []) (digits : ∀ c ∈ ds, c.isDigit = true) :
    ∃ micros < 1000000, clock? (clockText hours minutes seconds ++ '.' :: ds) =
      some (⟨hours, minutes, seconds, micros⟩, false) := by
  obtain ⟨micros, small, read⟩ := fraction?_digits digits
  obtain ⟨c, cs, rfl⟩ := List.exists_cons_of_ne_nil some'
  refine ⟨micros, small, ?_⟩
  rw [clockText, List.append_assoc, List.cons_append, List.append_assoc, List.cons_append,
    clock?_colon hhours (List.append_ne_nil_of_left_ne_nil (decimal_two_ne_nil _) _),
    minutes?_colon hminutes (List.append_ne_nil_of_left_ne_nil (decimal_two_ne_nil _) _), seconds?, number?_decimal 2 hseconds]
  simp only [Option.bind_eq_bind, Option.bind_some, isFractionMark, beq_self_eq_true,
    Bool.true_or, if_true, read]
  rfl

/-- An offset of less than a day, in hours and minutes behind a sign. -/
theorem offset?_hourMinuteText (sign : Char) (hhours : hours < 100) (hminutes : minutes < 100)
    (below : hours * 60 + minutes < 1440) :
    offset? (sign :: hourMinuteText hours minutes) =
      some (if sign = '-' then -(((hours * 60 + minutes) * 60 : Int) * 1000000)
        else ((hours * 60 + minutes) * 60 : Int) * 1000000) := by
  have micros : (⟨hours, minutes, 0, 0⟩ : Clock).toMicros =
      ((hours * 60 + minutes) * 60 : Int) * 1000000 := by
    simp only [Clock.toMicros]
    omega
  have inDay : (⟨hours, minutes, 0, 0⟩ : Clock).isOffset = true := by
    rw [Clock.isOffset, micros, decide_eq_true_eq]
    omega
  have distance : (⟨hours, minutes, 0, 0⟩ : Clock).distance =
      ((hours * 60 + minutes) * 60 : Int) * 1000000 := by
    rw [Clock.distance, micros]
    split <;> omega
  simp only [offset?, clock?_hourMinuteText hhours hminutes, inDay, distance, if_true]

/-- A clock, and the offset behind it from its sign on. -/
theorem timeOfDay?_append {body tail : List Char} {clock : Clock} {offset : Int}
    (unsigned : ∀ c ∈ body, isSign c = false) (signed : ∀ c ∈ tail.head?, isSign c = true)
    (read : clock? body = some (clock, false)) (proper : clock.isTimeOfDay = true)
    (shift : offset? tail = some offset) :
    timeOfDay? (body ++ tail) = some (clock.toMicros - offset) := by
  have inside : ∀ c ∈ body, (!isSign c) = true := fun c hc => by rw [unsigned c hc]; rfl
  have stop : tail.takeWhile (fun c => !isSign c) = [] ∧
      tail.dropWhile (fun c => !isSign c) = tail := by
    cases tail with
    | nil => exact ⟨rfl, rfl⟩
    | cons c cs =>
      have here := signed c rfl
      exact ⟨List.takeWhile_cons_of_neg (by simp [here]),
        List.dropWhile_cons_of_neg (by simp [here])⟩
  simp only [timeOfDay?, List.span_eq_takeWhile_dropWhile, List.takeWhile_append_of_pos inside,
    List.dropWhile_append_of_pos inside, stop.1, stop.2, List.append_nil, read, shift, proper,
    Option.bind_eq_bind, Option.bind_some, Bool.not_false, Bool.true_or, Bool.and_self, if_true]

/-! ### The moment -/

/-- A date, one character, and what is read as a time of day. -/
theorem micros?_dateText (valid : d.isValid = true) (first : 1 ≤ d.year) (last : d.year ≤ 9999)
    (separator : Char) {time : Int} (read : timeOfDay? rest = some time) :
    micros? (dateText d ++ separator :: rest) = some (d.toDays * 86400000000 + time) := by
  have front : (dateText d ++ separator :: rest).take 10 = dateText d := rfl
  have back : (dateText d ++ separator :: rest).drop 10 = separator :: rest := rfl
  simp only [micros?, dateLength_dateText, front, back, date?_dateText valid first last, read,
    Option.bind_eq_bind, Option.bind_some]
  rfl

/-! ### Preparing the text -/

/-- Outside a fraction every character stays, and a point begins one. -/
theorem cutFractions_none_cons (c : Char) (cs : List Char) :
    cutFractions none (c :: cs) = c :: cutFractions (if c = '.' then some 6 else none) cs := by
  rw [cutFractions]
  · intro _ h
    cases h
  · intro _ _ h
    cases h

theorem cutFractions_append {front : List Char} (h : '.' ∉ front) (rest : List Char) :
    cutFractions none (front ++ rest) = front ++ cutFractions none rest := by
  induction front with
  | nil => rfl
  | cons c front ih =>
    obtain ⟨here, later⟩ := not_or.mp (mt List.mem_cons.mpr h)
    rw [List.cons_append, cutFractions_none_cons, if_neg (Ne.symm here), ih later, List.cons_append]

theorem cutFractions_eq_self {cs : List Char} (h : '.' ∉ cs) : cutFractions none cs = cs := by
  have cut := cutFractions_append h []
  rwa [cutFractions, List.append_nil] at cut

/-- The digits of a fraction, of which as many stay as there is room for. -/
theorem cutFractions_digits (room : Nat) (digits : ∀ c ∈ ds, c.isDigit = true)
    (stop : ∀ c ∈ rest.head?, decimalValue? c = none) :
    cutFractions (some room) (ds ++ rest) = ds.take room ++ cutFractions none rest := by
  induction ds generalizing room with
  | nil =>
    cases rest with
    | nil => rw [List.append_nil, cutFractions, List.take_nil, cutFractions, List.append_nil]
    | cons c rest =>
      have noDigit := stop c rfl
      rw [List.nil_append, List.take_nil, List.nil_append, cutFractions, cutFractions]
      all_goals simp [noDigit]
  | cons c ds ih =>
    have digit := decimalValue?_of_isDigit (digits c List.mem_cons_self)
    have ih := fun room => ih room fun e he => digits e (.tail c he)
    cases room with
    | zero => simp only [List.cons_append, cutFractions, digit, ih, List.take_zero]
    | succ room => simp only [List.cons_append, cutFractions, digit, ih, List.take_succ_cons]

theorem spellZulu_append (cs ds : List Char) :
    spellZulu (cs ++ ds) = spellZulu cs ++ spellZulu ds := List.flatMap_append

theorem spellZulu_eq_self {cs : List Char} (h : 'Z' ∉ cs) : spellZulu cs = cs := by
  induction cs with
  | nil => rfl
  | cons c cs ih =>
    obtain ⟨here, later⟩ := not_or.mp (mt List.mem_cons.mpr h)
    rw [spellZulu, List.flatMap_cons, if_neg (Ne.symm here)]
    exact congrArg (c :: ·) (ih later)

/-! ### Seconds -/

/-- A fraction of a second does not count as long as the whole seconds take up few enough bits. -/
theorem wholeSeconds_add {whole : Int} {micros : Nat} (nonneg : 0 ≤ whole) (high : whole < 2 ^ 33)
    (small : micros < 1000000) : wholeSeconds (whole * 1000000 + micros) = whole := by
  have unsigned : decide (whole * 1000000 + micros < 0) = false := by
    apply decide_eq_false
    omega
  have bound : (whole * 1000000 + micros).natAbs < 2 ^ (53 - 20) * 1000000 := by omega
  have cut := Binary64.truncate?_ofRatio false (by decide) (by decide) bound (by omega)
  rw [wholeSeconds, unsigned, cut]
  simp only [Bool.false_eq_true, if_false, Option.getD_some]
  omega

/-- Whole seconds are kept on either side of the epoch. -/
theorem wholeSeconds_mul {whole : Int} (low : -2 ^ 52 < whole) (high : whole < 2 ^ 52) :
    wholeSeconds (whole * 1000000) = whole := by
  have bound : (whole * 1000000).natAbs < 2 ^ (53 - 1) * 1000000 := by omega
  have cut := Binary64.truncate?_ofRatio (decide (whole * 1000000 < 0)) (by decide) (by decide)
    bound (by omega)
  rw [wholeSeconds, cut, Option.getD_some]
  by_cases negative : whole * 1000000 < 0
  · simp only [negative, decide_true, if_true]
    omega
  · simp only [negative, decide_false, Bool.false_eq_true, if_false]
    omega

theorem epoch_eq {s : String} {micros : Int}
    (h : micros? (spellZulu (cutFractions none s.toList)) = some micros) :
    epoch s = wholeSeconds micros := by
  rw [epoch, h]

end DevEnv.Timestamp
