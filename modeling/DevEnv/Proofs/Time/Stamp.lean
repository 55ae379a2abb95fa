import DevEnv.Proofs.Time.Reading
import Mathlib.Data.Rat.Floor

/-!
Timestamps as engines write them: date and time of day, a fraction of any length, and the letter for
universal time or an offset. They are read as the second in which their moment lies, as far as seconds
take up at most 33 bits.
-/

namespace DevEnv.Timestamp

set_option autoImplicit false

open Text

/-- The place of a timestamp's clock. -/
inductive Zone
  | universal
  | offset (behind : Bool) (hours minutes : Nat)

/-- The sign of an offset. -/
def signOf (behind : Bool) : Char := if behind then '-' else '+'

namespace Zone

def text : Zone → List Char
  | universal => ['Z']
  | offset behind hours minutes => signOf behind :: hourMinuteText hours minutes

/-- How many seconds the clock is ahead of universal time. -/
def seconds : Zone → Int
  | universal => 0
  | offset behind hours minutes =>
    if behind then -((hours * 60 + minutes) * 60) else (hours * 60 + minutes) * 60

/-- Hours and minutes have two digits each, and come to less than a day. -/
def Proper : Zone → Prop
  | universal => True
  | offset _ hours minutes => hours < 100 ∧ minutes < 100 ∧ hours * 60 + minutes < 1440

end Zone

structure Stamp where
  date : Date
  hours : Nat
  minutes : Nat
  seconds : Nat
  /-- The digits behind the point, which is left out if there are none. -/
  fraction : List Char
  zone : Zone

/-- A fraction with its point. -/
def fractionText : List Char → List Char
  | [] => []
  | c :: cs => '.' :: c :: cs

namespace Stamp

structure Proper (s : Stamp) : Prop where
  date : s.date.isValid = true
  hours : s.hours < 24
  minutes : s.minutes < 60
  seconds : s.seconds < 60
  fraction : ∀ c ∈ s.fraction, c.isDigit = true
  zone : s.zone.Proper

def text (s : Stamp) : String :=
  String.ofList (dateText s.date ++ 'T' :: (clockText s.hours s.minutes s.seconds ++
    fractionText s.fraction ++ s.zone.text))

/-- The seconds of universal time from the start of 1970 to the moment, its fraction left out. -/
def wholePart (s : Stamp) : Int :=
  s.date.toDays * 86400 + ((s.hours * 60 + s.minutes) * 60 + s.seconds) - s.zone.seconds

/-- The seconds of universal time from the start of 1970 to the moment. -/
def instant (s : Stamp) : ℚ :=
  s.wholePart + ofDigits (s.fraction.map fun c => c.toNat - 48) / 10 ^ s.fraction.length

end Stamp

variable {z : Zone} {s : Stamp} {ds : List Char} {hours minutes seconds : Nat}

/-! ### The parts of the text -/

theorem not_mem_offset {sign e : Char} (hours minutes : Nat) (other : e ≠ sign)
    (noDigit : e.isDigit = false) (noColon : e ≠ ':') :
    e ∉ sign :: hourMinuteText hours minutes := by
  simp only [hourMinuteText, List.mem_cons, List.mem_append, other, noColon, false_or]
  rintro (hour | minute)
  · exact ne_of_isDigit (isDigit_decimal _ _ _ hour) noDigit rfl
  · exact ne_of_isDigit (isDigit_decimal _ _ _ minute) noDigit rfl

theorem ne_signOf {e : Char} (behind : Bool) (plus : e ≠ '+') (minus : e ≠ '-') :
    e ≠ signOf behind := by
  cases behind with
  | false => exact plus
  | true => exact minus

theorem spellZulu_offset (behind : Bool) (hours minutes : Nat) :
    spellZulu (Zone.offset behind hours minutes).text =
      signOf behind :: hourMinuteText hours minutes :=
  spellZulu_eq_self
    (not_mem_offset _ _ (ne_signOf behind (by decide) (by decide)) (by decide) (by decide))

theorem Zone.seconds_bounds (proper : z.Proper) : -86400 < z.seconds ∧ z.seconds < 86400 := by
  cases z with
  | universal => decide
  | offset behind hours minutes =>
    obtain ⟨-, -, below⟩ := proper
    simp only [Zone.seconds]
    split <;> omega

theorem offset?_zone (proper : z.Proper) :
    offset? (spellZulu z.text) = some (z.seconds * 1000000) := by
  cases z with
  | universal => decide
  | offset behind hours minutes =>
    obtain ⟨hhours, hminutes, below⟩ := proper
    rw [spellZulu_offset, offset?_hourMinuteText _ hhours hminutes below]
    cases behind with
    | false => rfl
    | true =>
      simp only [Zone.seconds, signOf, if_true]
      rw [Int.neg_mul]

theorem isSign_zone (z : Zone) : ∀ c ∈ (spellZulu z.text).head?, isSign c = true := by
  intro c hc
  cases z with
  | universal =>
    obtain rfl := Option.some.inj hc
    decide
  | offset behind hours minutes =>
    rw [spellZulu_offset] at hc
    obtain rfl := Option.some.inj hc
    cases behind <;> decide

theorem not_mem_zone (z : Zone) : '.' ∉ z.text := by
  cases z with
  | universal => decide
  | offset behind hours minutes =>
    exact not_mem_offset _ _ (ne_signOf behind (by decide) (by decide)) (by decide) (by decide)

theorem noDigit_zone (z : Zone) : ∀ c ∈ z.text.head?, decimalValue? c = none := by
  intro c hc
  cases z with
  | universal =>
    obtain rfl := Option.some.inj hc
    decide
  | offset behind hours minutes =>
    obtain rfl := Option.some.inj hc
    cases behind <;> decide

theorem mem_fractionText (digits : ∀ c ∈ ds, c.isDigit = true) :
    ∀ c ∈ fractionText ds, c = '.' ∨ c.isDigit = true := by
  intro c hc
  cases ds with
  | nil => cases hc
  | cons d ds => exact (List.mem_cons.mp hc).imp_right (digits c)

theorem not_mem_fractionText (digits : ∀ c ∈ ds, c.isDigit = true) {e : Char}
    (noDigit : e.isDigit = false) (noPoint : e ≠ '.') : e ∉ fractionText ds := by
  intro he
  rcases mem_fractionText digits e he with point | digit
  · exact noPoint point
  · exact ne_of_isDigit digit noDigit rfl

/-- A clock with its fraction is read to the microsecond. -/
theorem clock?_fractionText (hhours : hours < 100) (hminutes : minutes < 100)
    (hseconds : seconds < 100) (digits : ∀ c ∈ ds, c.isDigit = true) :
    ∃ micros < 1000000, clock? (clockText hours minutes seconds ++ fractionText ds) =
      some (⟨hours, minutes, seconds, micros⟩, false) := by
  cases ds with
  | nil =>
    refine ⟨0, by decide, ?_⟩
    rw [fractionText, List.append_nil, clock?_clockText hhours hminutes hseconds]
  | cons d ds => exact clock?_fraction hhours hminutes hseconds (List.cons_ne_nil d ds) digits

/-- Six digits of the fraction stay. -/
theorem cutFractions_fractionText (digits : ∀ c ∈ ds, c.isDigit = true) (z : Zone) :
    cutFractions none (fractionText ds ++ z.text) = fractionText (ds.take 6) ++ z.text := by
  cases ds with
  | nil => exact cutFractions_eq_self (not_mem_zone z)
  | cons d ds =>
    have cut := cutFractions_digits 6 digits (noDigit_zone z)
    rw [cutFractions_eq_self (not_mem_zone z)] at cut
    rw [fractionText, List.cons_append, cutFractions_none_cons, if_pos rfl, cut]
    rfl

/-! ### The whole text -/

namespace Stamp

theorem Proper.kept (proper : s.Proper) : ∀ c ∈ s.fraction.take 6, c.isDigit = true := by
  intro c hc
  exact proper.fraction c (List.mem_of_mem_take hc)

theorem prepared (proper : s.Proper) : spellZulu (cutFractions none s.text.toList) =
    dateText s.date ++ 'T' :: (clockText s.hours s.minutes s.seconds ++
      fractionText (s.fraction.take 6) ++ spellZulu s.zone.text) := by
  have noPoint : '.' ∉ dateText s.date ++ 'T' :: clockText s.hours s.minutes s.seconds := by
    apply not_mem_dateTime <;> decide
  have noZulu : 'Z' ∉ dateText s.date ++ 'T' :: clockText s.hours s.minutes s.seconds := by
    apply not_mem_dateTime <;> decide
  have noZulu' := not_mem_fractionText proper.kept (show 'Z'.isDigit = false by decide) (by decide)
  have cut : s.text.toList = (dateText s.date ++ 'T' :: clockText s.hours s.minutes s.seconds) ++
      (fractionText s.fraction ++ s.zone.text) := by
    rw [text, String.toList_ofList, List.append_assoc, List.append_assoc]
    rfl
  rw [cut, cutFractions_append noPoint, cutFractions_fractionText proper.fraction,
    spellZulu_append, spellZulu_eq_self noZulu, spellZulu_append, spellZulu_eq_self noZulu',
    List.append_assoc, List.cons_append, List.append_assoc]

/-- The time of day in universal time, to the microsecond. -/
theorem timeOfDay?_prepared (proper : s.Proper) : ∃ micros : Nat, micros < 1000000 ∧
    timeOfDay? (clockText s.hours s.minutes s.seconds ++ fractionText (s.fraction.take 6) ++
      spellZulu s.zone.text) =
    some ((((s.hours * 60 + s.minutes) * 60 + s.seconds : Int) - s.zone.seconds) * 1000000 +
      micros) := by
  have hhours := proper.hours
  have hminutes := proper.minutes
  have hseconds := proper.seconds
  have digits := proper.kept
  obtain ⟨micros, small, read⟩ :=
    @clock?_fractionText _ s.hours s.minutes s.seconds (by omega) (by omega) (by omega) digits
  have inDay : (⟨s.hours, s.minutes, s.seconds, micros⟩ : Clock).isTimeOfDay = true := by
    simp [Clock.isTimeOfDay, hhours, hminutes, hseconds]
  have unsigned : ∀ c ∈ clockText s.hours s.minutes s.seconds ++ fractionText (s.fraction.take 6),
      isSign c = false := by
    intro c hc
    rcases List.mem_append.mp hc with clock | fraction
    · exact isSign_clockText _ _ _ c clock
    · simp only [isSign, Bool.or_eq_false_iff, beq_eq_false_iff_ne]
      constructor
      · rintro rfl
        exact not_mem_fractionText digits (by decide) (by decide) fraction
      · rintro rfl
        exact not_mem_fractionText digits (by decide) (by decide) fraction
  refine ⟨micros, small, ?_⟩
  rw [timeOfDay?_append unsigned (isSign_zone s.zone) read inDay (offset?_zone proper.zone)]
  simp only [Clock.toMicros]
  congr 1
  omega

theorem micros?_prepared (proper : s.Proper) (first : 1 ≤ s.date.year)
    (last : s.date.year ≤ 9999) : ∃ micros : Nat, micros < 1000000 ∧
    micros? (spellZulu (cutFractions none s.text.toList)) =
      some (s.wholePart * 1000000 + micros) := by
  obtain ⟨micros, small, read⟩ := timeOfDay?_prepared proper
  refine ⟨micros, small, ?_⟩
  rw [prepared proper, micros?_dateText proper.date first last 'T' read, wholePart]
  congr 1
  omega

/-! ### The moment -/

theorem floor_instant (proper : s.Proper) : ⌊s.instant⌋ = s.wholePart := by
  have small := ofDigits_lt proper.fraction
  have nonneg : (0 : ℚ) ≤ ofDigits (s.fraction.map fun c => c.toNat - 48) / 10 ^ s.fraction.length := by
    positivity
  have lt_one : (ofDigits (s.fraction.map fun c => c.toNat - 48) : ℚ) / 10 ^ s.fraction.length < 1 := by
    rw [div_lt_one (by positivity)]
    exact_mod_cast small
  rw [instant, Int.floor_intCast_add, Int.floor_eq_zero_iff.mpr ⟨nonneg, lt_one⟩, add_zero]

/-- The clock and the zone move a moment by less than two days. -/
theorem wholePart_bounds (proper : s.Proper) :
    s.date.toDays * 86400 - 86400 < s.wholePart ∧
      s.wholePart < s.date.toDays * 86400 + 2 * 86400 := by
  have hhours := proper.hours
  have hminutes := proper.minutes
  have hseconds := proper.seconds
  obtain ⟨west, east⟩ := Zone.seconds_bounds proper.zone
  simp only [wholePart]
  omega

theorem year_bounds (proper : s.Proper) (low : 0 ≤ s.wholePart) (high : s.wholePart < 2 ^ 33) :
    1969 ≤ s.date.year ∧ s.date.year ≤ 2242 := by
  obtain ⟨low', high'⟩ := wholePart_bounds proper
  obtain ⟨start, stop⟩ := Date.toDays_bounds proper.date
  constructor
  · by_contra before
    have := Calendar.firstDay_mono (show s.date.year + 1 ≤ 1969 by omega)
    have : Calendar.firstDay 1969 = -365 := by decide
    omega
  · by_contra after
    have := Calendar.firstDay_mono (show 2243 ≤ s.date.year by omega)
    have : Calendar.firstDay 2243 = 99711 := by decide
    omega

end Stamp

/-- A timestamp is read as the second in which its moment lies, whatever its fraction and its zone.
Its date is the one on the calendar. -/
theorem epoch_stamp (s : Stamp) (proper : s.Proper) (low : 0 ≤ s.instant)
    (high : s.instant < 2 ^ 33) :
    epoch s.text = ⌊s.instant⌋ ∧ ∃ day, s.date.FallsOn day ∧ ⌊s.instant⌋ =
      day * 86400 + ((s.hours * 60 + s.minutes) * 60 + s.seconds) - s.zone.seconds := by
  have floor := s.floor_instant proper
  have low' : 0 ≤ s.wholePart := by
    rw [← floor]
    exact Int.floor_nonneg.mpr low
  have high' : s.wholePart < 2 ^ 33 := by
    rw [← floor]
    exact Int.floor_lt.mpr (by exact_mod_cast high)
  obtain ⟨first, last⟩ := s.year_bounds proper low' high'
  obtain ⟨micros, small, read⟩ := s.micros?_prepared proper (by omega) (by omega)
  constructor
  · rw [epoch_eq read, wholeSeconds_add low' high' small, floor]
  · exact ⟨s.date.toDays, Date.fallsOn_iff.mpr ⟨proper.date, rfl⟩, floor⟩

/-- Half an hour into March in a zone that is further ahead than that, on the day after a leap day. -/
def leapNight : Stamp :=
  ⟨⟨2024, 3, 1⟩, 0, 30, 0, List.replicate 10 '9', .offset false 5 45⟩

theorem epoch_stamp_leapNight :
    leapNight.text = "2024-03-01T00:30:00.9999999999+05:45" ∧ leapNight.Proper ∧
      0 ≤ leapNight.instant ∧ leapNight.instant < 2 ^ 33 ∧ epoch leapNight.text = 1709232300 := by
  have zone : leapNight.zone.Proper := ⟨by decide, by decide, by decide⟩
  have digits : ∀ c ∈ leapNight.fraction, c.isDigit = true := by
    intro c hc
    rw [List.eq_of_mem_replicate hc]
    rfl
  have proper : leapNight.Proper :=
    ⟨by decide, by decide, by decide, by decide, digits, zone⟩
  have floor := Stamp.floor_instant proper
  have second : leapNight.wholePart = 1709232300 := by decide
  rw [second] at floor
  have low : 0 ≤ leapNight.instant := Int.floor_nonneg.mp (by rw [floor]; decide)
  have high : leapNight.instant < 2 ^ 33 := by
    have bound : ⌊leapNight.instant⌋ < 2 ^ 33 := by rw [floor]; decide
    exact_mod_cast Int.floor_lt.mp bound
  refine ⟨by decide, proper, low, high, ?_⟩
  rw [(epoch_stamp leapNight proper low high).1, floor]

end DevEnv.Timestamp
