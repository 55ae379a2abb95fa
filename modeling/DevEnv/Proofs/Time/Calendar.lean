import DevEnv.Time.Calendar
import Mathlib.Data.Int.Init
import Mathlib.Data.Nat.Init

/-!
The calendar, counted day by day. A date falls on a day if counting on or back from the start of
1970, by the lengths of months alone, comes to the date on that day. The closed formulas for dates
and days are shown to agree with that count, so each is the inverse of the other.
-/

namespace DevEnv

set_option autoImplicit false

-- Sums start from the zero of core, as they do in the definitions.
attribute [local instance (2000)] Zero.ofOfNat0

namespace Calendar

variable {year n : Int} {month : Nat}

/-! ### Years -/

def yearLength (year : Int) : Nat := if isLeap year then 366 else 365

theorem isLeap_iff : isLeap year = true ↔ year % 4 = 0 ∧ (year % 100 ≠ 0 ∨ year % 400 = 0) := by
  simp [isLeap]

theorem sum_monthLengths (year : Int) : (monthLengths year).sum = yearLength year := by
  unfold monthLengths yearLength
  split <;> rfl

theorem firstDay_succ (year : Int) : firstDay (year + 1) = firstDay year + yearLength year := by
  by_cases leap : isLeap year = true
  · have := isLeap_iff.mp leap
    simp only [firstDay, yearLength, if_pos leap]
    omega
  · have := mt isLeap_iff.mpr leap
    simp only [firstDay, yearLength, if_neg leap]
    omega

theorem firstDay_mono {later : Int} (h : year ≤ later) : firstDay year ≤ firstDay later := by
  simp only [firstDay]
  omega

/-- A day lies in the year that is computed for it. -/
theorem yearOf_bounds (n : Int) : firstDay (yearOf n) ≤ n ∧ n < firstDay (yearOf n + 1) := by
  simp only [yearOf]
  split
  · simp only [firstDay] at *
    omega
  · split
    · simp only [firstDay] at *
      omega
    · simp only [firstDay] at *
      omega

theorem yearOf_eq (low : firstDay year ≤ n) (high : n < firstDay (year + 1)) : yearOf n = year := by
  obtain ⟨low', high'⟩ := yearOf_bounds n
  rcases Int.lt_trichotomy (yearOf n) year with before | same | after
  · have := firstDay_mono (show yearOf n + 1 ≤ year by omega)
    omega
  · exact same
  · have := firstDay_mono (show year + 1 ≤ yearOf n by omega)
    omega

/-! ### Months -/

theorem length_monthLengths (year : Int) : (monthLengths year).length = 12 := rfl

/-- The lengths of the months, cut at one of them. -/
theorem monthLengths_eq (first : 1 ≤ month) (last : month ≤ 12) :
    monthLengths year = (monthLengths year).take (month - 1) ++
      monthLength year month :: (monthLengths year).drop month := by
  have inside : month - 1 < (monthLengths year).length := by
    rw [length_monthLengths]
    omega
  have cut := List.take_append_drop (month - 1) (monthLengths year)
  rw [List.drop_eq_getElem_cons inside, Nat.sub_add_cancel first] at cut
  rw [monthLength, List.getElem?_eq_getElem inside, Option.getD_some]
  exact cut.symm

theorem monthLength_bounds (year : Int) (first : 1 ≤ month) (last : month ≤ 12) :
    1 ≤ monthLength year month ∧ monthLength year month ≤ 31 := by
  have all : ∀ length ∈ monthLengths year, 1 ≤ length ∧ length ≤ 31 := by
    unfold monthLengths
    split <;> decide
  apply all
  rw [monthLengths_eq first last]
  exact List.mem_append_right _ List.mem_cons_self

theorem daysBefore_succ (year : Int) (first : 1 ≤ month) (last : month ≤ 12) :
    daysBefore year (month + 1) = daysBefore year month + monthLength year month := by
  have cut : (monthLengths year).take month =
      (monthLengths year).take (month - 1) ++ [monthLength year month] := by
    conv => lhs; rw [monthLengths_eq first last]
    have size : ((monthLengths year).take (month - 1)).length = month - 1 := by
      rw [List.length_take, length_monthLengths]
      omega
    rw [List.take_append, size, List.take_take, Nat.min_eq_right (Nat.sub_le _ _),
      show month - (month - 1) = 1 by omega]
    rfl
  rw [daysBefore, Nat.add_sub_cancel, cut, List.sum_append, daysBefore]
  rfl

theorem daysBefore_thirteen (year : Int) : daysBefore year 13 = yearLength year :=
  sum_monthLengths year

theorem daysBefore_mono {later : Nat} (h : month ≤ later) (first : 1 ≤ month) (last : later ≤ 13) :
    daysBefore year month ≤ daysBefore year later := by
  induction later, h using Nat.le_induction with
  | base => exact Nat.le_refl _
  | succ later h ih =>
    rw [daysBefore_succ year (by omega) (by omega)]
    exact Nat.le_trans (ih (by omega)) (Nat.le_add_right _ _)

/-- The months up to the end of one lie within the year. -/
theorem daysBefore_add_le (year : Int) (first : 1 ≤ month) (last : month ≤ 12) :
    daysBefore year month + monthLength year month ≤ yearLength year := by
  rw [← daysBefore_succ year first last, ← daysBefore_thirteen]
  exact daysBefore_mono (by omega) (by omega) (Nat.le_refl _)

/-- Counting through the months that come before ends in the month that follows them. -/
theorem monthDay_append (before : List Nat) (start : Nat) {r length : Nat} (rest : List Nat)
    (within : r < length) :
    monthDay start (before.sum + r) (before ++ length :: rest) =
      (start + before.length, r + 1) := by
  induction before generalizing start with
  | nil =>
    have here : ([] : List Nat).sum + r = r := Nat.zero_add r
    rw [here, List.nil_append, monthDay, if_pos within]
    rfl
  | cons first before ih =>
    have beyond : ¬ (first :: before).sum + r < first := by
      rw [List.sum_cons]
      omega
    have rest : (first :: before).sum + r - first = before.sum + r := by
      rw [List.sum_cons]
      omega
    rw [List.cons_append, monthDay, if_neg beyond, rest, ih, List.length_cons]
    congr 1
    omega

/-- Every day within the months lies in one of them. -/
theorem exists_month {lengths : List Nat} {n : Nat} (h : n < lengths.sum) :
    ∃ before length rest r, lengths = before ++ length :: rest ∧ n = before.sum + r ∧
      r < length := by
  induction lengths generalizing n with
  | nil => exact absurd h (Nat.not_lt_zero n)
  | cons length lengths ih =>
    by_cases here : n < length
    · exact ⟨[], length, lengths, n, rfl, (Nat.zero_add n).symm, here⟩
    · rw [List.sum_cons] at h
      obtain ⟨before, length', rest, r, rfl, hn, hr⟩ := ih (show n - length < lengths.sum by omega)
      refine ⟨length :: before, length', rest, r, rfl, ?_, hr⟩
      rw [List.sum_cons]
      omega

theorem monthDay_monthLengths {r : Nat} (first : 1 ≤ month) (last : month ≤ 12)
    (within : r < monthLength year month) :
    monthDay 1 (daysBefore year month + r) (monthLengths year) = (month, r + 1) := by
  have size : ((monthLengths year).take (month - 1)).length = month - 1 := by
    rw [List.length_take, length_monthLengths]
    omega
  rw [monthLengths_eq first last, daysBefore, monthDay_append _ _ _ within, size]
  congr 1
  omega

/-- Every day of a year lies in one of its months. -/
theorem exists_day {n : Nat} (h : n < yearLength year) :
    ∃ month r, 1 ≤ month ∧ month ≤ 12 ∧ r < monthLength year month ∧
      n = daysBefore year month + r := by
  rw [← sum_monthLengths] at h
  obtain ⟨before, length, rest, r, whole, hn, hr⟩ := exists_month h
  have few : before.length < 12 := by
    rw [← length_monthLengths year, whole, List.length_append, List.length_cons]
    omega
  refine ⟨before.length + 1, r, by omega, by omega, ?_, ?_⟩
  · rw [monthLength, whole, Nat.add_sub_cancel, List.getElem?_append_right (Nat.le_refl _),
      Nat.sub_self]
    exact hr
  · rw [hn, daysBefore, whole, Nat.add_sub_cancel, List.take_left]

end Calendar

/-! ### Dates -/

open Calendar

namespace Date

variable {d : Date} {n : Int}

theorem isValid_iff :
    d.isValid = true ↔ 1 ≤ d.month ∧ d.month ≤ 12 ∧ 1 ≤ d.day ∧
      d.day ≤ monthLength d.year d.month := by
  simp [isValid, and_assoc]

theorem bounds_of_isValid (valid : d.isValid = true) : d.month ≤ 12 ∧ d.day ≤ 31 := by
  obtain ⟨first, last, -, last'⟩ := isValid_iff.mp valid
  exact ⟨last, Nat.le_trans last' (monthLength_bounds d.year first last).2⟩

theorem toDays_eq (valid : d.isValid = true) :
    d.toDays = firstDay d.year + (daysBefore d.year d.month + (d.day - 1) : Nat) := by
  obtain ⟨-, -, first, -⟩ := isValid_iff.mp valid
  rw [toDays]
  omega

/-- The day of a date lies in its year. -/
theorem toDays_bounds (valid : d.isValid = true) :
    firstDay d.year ≤ d.toDays ∧ d.toDays < firstDay (d.year + 1) := by
  obtain ⟨first, last, first', last'⟩ := isValid_iff.mp valid
  have := daysBefore_add_le d.year first last
  rw [toDays_eq valid, firstDay_succ]
  omega

theorem yearOf_toDays (valid : d.isValid = true) : yearOf d.toDays = d.year :=
  yearOf_eq (toDays_bounds valid).1 (toDays_bounds valid).2

theorem ofDays_toDays (valid : d.isValid = true) : ofDays d.toDays = d := by
  obtain ⟨first, last, first', last'⟩ := isValid_iff.mp valid
  have within : (d.toDays - firstDay d.year).toNat = daysBefore d.year d.month + (d.day - 1) := by
    rw [toDays_eq valid]
    omega
  simp only [ofDays, yearOf_toDays valid, within,
    monthDay_monthLengths first last (show d.day - 1 < monthLength d.year d.month by omega),
    Nat.sub_add_cancel first']

/-- Every day has a date that is on the calendar. -/
theorem ofDays_spec (n : Int) : (ofDays n).isValid = true ∧ (ofDays n).toDays = n := by
  obtain ⟨low, high⟩ := yearOf_bounds n
  rw [firstDay_succ] at high
  have within : (n - firstDay (yearOf n)).toNat < yearLength (yearOf n) := by omega
  obtain ⟨month, r, first, last, hr, hn⟩ := exists_day within
  have made : ofDays n = ⟨yearOf n, month, r + 1⟩ := by
    simp only [ofDays, hn, monthDay_monthLengths first last hr]
  have valid : (⟨yearOf n, month, r + 1⟩ : Date).isValid = true :=
    isValid_iff.mpr ⟨first, last, by simp, hr⟩
  rw [made]
  refine ⟨valid, ?_⟩
  rw [toDays_eq valid]
  simp only [Nat.add_sub_cancel]
  omega

theorem toDays_injective {e : Date} (hd : d.isValid = true) (he : e.isValid = true)
    (same : d.toDays = e.toDays) : d = e := by
  rw [← ofDays_toDays hd, same, ofDays_toDays he]

/-- The date of the day after, which is the first of a month if this one is the last. -/
def next (d : Date) : Date :=
  if d.day < monthLength d.year d.month then ⟨d.year, d.month, d.day + 1⟩
  else if d.month < 12 then ⟨d.year, d.month + 1, 1⟩
  else ⟨d.year + 1, 1, 1⟩

theorem next_spec (valid : d.isValid = true) :
    d.next.isValid = true ∧ d.next.toDays = d.toDays + 1 := by
  obtain ⟨first, last, first', last'⟩ := isValid_iff.mp valid
  unfold next
  split
  · rename_i inside
    have valid' : (⟨d.year, d.month, d.day + 1⟩ : Date).isValid = true :=
      isValid_iff.mpr ⟨first, last, by simp, inside⟩
    refine ⟨valid', ?_⟩
    rw [toDays_eq valid', toDays_eq valid]
    dsimp only
    omega
  · split
    · rename_i atEnd more
      have valid' : (⟨d.year, d.month + 1, 1⟩ : Date).isValid = true :=
        isValid_iff.mpr ⟨by simp, more, by simp, (monthLength_bounds _ (by simp) more).1⟩
      refine ⟨valid', ?_⟩
      have := daysBefore_succ d.year first last
      rw [toDays_eq valid', toDays_eq valid]
      dsimp only
      omega
    · rename_i atEnd december
      have valid' : (⟨d.year + 1, 1, 1⟩ : Date).isValid = true :=
        isValid_iff.mpr ⟨by simp, by simp, by simp, (monthLength_bounds _ (by simp) (by simp)).1⟩
      refine ⟨valid', ?_⟩
      have whole := daysBefore_succ d.year first last
      have december' : d.month + 1 = 13 := by omega
      rw [december', daysBefore_thirteen] at whole
      have := firstDay_succ d.year
      have none : daysBefore (d.year + 1) 1 = 0 := rfl
      rw [toDays_eq valid', toDays_eq valid]
      dsimp only
      omega

/-- The date comes up on the day, counting from the start of 1970. -/
inductive FallsOn : Date → Int → Prop
  | epoch : FallsOn ⟨1970, 1, 1⟩ 0
  | forward {d : Date} {n : Int} : FallsOn d n → FallsOn d.next (n + 1)
  | back {d : Date} {n : Int} : d.isValid = true → FallsOn d.next (n + 1) → FallsOn d n

theorem next_ofDays (n : Int) : (ofDays n).next = ofDays (n + 1) := by
  obtain ⟨valid, day⟩ := ofDays_spec n
  obtain ⟨valid', day'⟩ := ofDays_spec (n + 1)
  obtain ⟨after, later⟩ := next_spec valid
  exact toDays_injective after valid' (by rw [later, day, day'])

theorem fallsOn_ofDays (n : Int) : FallsOn (ofDays n) n := by
  induction n using Int.induction_on with
  | zero =>
    have epoch : ofDays 0 = ⟨1970, 1, 1⟩ := by decide
    rw [epoch]
    exact .epoch
  | succ n ih =>
    rw [← next_ofDays]
    exact .forward ih
  | pred n ih =>
    apply FallsOn.back (ofDays_spec _).1
    rw [next_ofDays, Int.sub_add_cancel]
    exact ih

theorem FallsOn.spec (h : FallsOn d n) : d.isValid = true ∧ d.toDays = n := by
  induction h with
  | epoch => decide
  | @forward d n _ ih =>
    obtain ⟨valid, rfl⟩ := ih
    exact next_spec valid
  | @back d n valid _ ih =>
    refine ⟨valid, ?_⟩
    have later := (next_spec valid).2
    omega

/-- A date that is on the calendar falls on one day, and that is the day which is computed for it. -/
theorem fallsOn_iff : FallsOn d n ↔ d.isValid = true ∧ d.toDays = n := by
  constructor
  · exact FallsOn.spec
  · rintro ⟨valid, rfl⟩
    have falls := fallsOn_ofDays d.toDays
    rwa [ofDays_toDays valid] at falls

/-- Each day has one date, and that is the date which is computed for it. -/
theorem fallsOn_iff_eq_ofDays : FallsOn d n ↔ d = ofDays n := by
  constructor
  · intro h
    obtain ⟨valid, rfl⟩ := h.spec
    exact (ofDays_toDays valid).symm
  · rintro rfl
    exact fallsOn_ofDays n

end Date

end DevEnv
