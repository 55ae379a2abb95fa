import DevEnv.Proofs.Time.Reading
import DevEnv.Time.Display

/-!
Points in time as they are shown to a reader. In the years that have four digits, what is shown is the
date on the calendar and the time of day, and reading it gives the point in time again.
-/

namespace DevEnv.Timestamp

set_option autoImplicit false

open Text

variable {t : Int} {d : Date} {hours minutes seconds : Nat}

/-- The point in time lies in a year of four digits. -/
def InFourDigits (t : Int) : Prop :=
  ∃ d : Date, d.FallsOn (t / 86400) ∧ 1000 ≤ d.year ∧ d.year ≤ 9999

/-- The text shows the date and the time of day in universal time. -/
inductive Shows (t : Int) (text : String) : Prop
  | intro (d : Date) (hours minutes seconds : Nat) (day : d.FallsOn (t / 86400))
      (inDay : hours < 24) (inHour : minutes < 60) (inMinute : seconds < 60)
      (time : t % 86400 = (hours * 60 + minutes) * 60 + seconds)
      (written : text.toList = dateText d ++ ' ' :: clockText hours minutes seconds)

/-! ### What is shown -/

theorem toList_twoDigits {n : Nat} (h : n < 100) : (twoDigits n).toList = decimal 2 n := by
  have plain : (toString n).toList = Nat.toDigits 10 n := Nat.toList_repr
  unfold twoDigits
  split
  · rename_i single
    have zero : n / 10 = 0 := by omega
    rw [String.toList_append, plain, Nat.toDigits_of_lt_base single, decimal, decimal, decimal, zero,
      Nat.mod_eq_of_lt single]
    rfl
  · rename_i more
    have low : 10 ^ 1 ≤ n := by omega
    rw [plain, toDigits_eq_decimal low h]

theorem toList_year {year : Int} (first : 1000 ≤ year) (last : year ≤ 9999) :
    (toString year).toList = decimal 4 year.toNat := by
  have natural : year.natAbs = year.toNat := by omega
  have low : 10 ^ 3 ≤ year.toNat := by omega
  have high : year.toNat < 10 ^ (3 + 1) := by omega
  rw [toList_toString, if_neg (by omega), natural, toDigits_eq_decimal low high]

theorem toList_civilText (t : Int) (first : 1000 ≤ (Date.ofDays (t / 86400)).year)
    (last : (Date.ofDays (t / 86400)).year ≤ 9999) :
    (civilText t).toList = dateText (Date.ofDays (t / 86400)) ++
      ' ' :: clockText ((t % 86400).toNat / 3600) ((t % 86400).toNat / 60 % 60)
        ((t % 86400).toNat % 60) := by
  obtain ⟨month, day⟩ := Date.bounds_of_isValid (Date.ofDays_spec (t / 86400)).1
  simp only [civilText, dateText, clockText, String.toList_append, toList_year first last]
  rw [toList_twoDigits (by omega), toList_twoDigits (by omega), toList_twoDigits (by omega),
    toList_twoDigits (by omega), toList_twoDigits (by omega)]
  simp only [List.append_assoc]
  rfl

theorem shows_civilText (years : InFourDigits t) : Shows t (civilText t) := by
  obtain ⟨d, day, first, last⟩ := years
  obtain rfl := Date.fallsOn_iff_eq_ofDays.mp day
  refine .intro _ _ _ _ day ?_ ?_ ?_ ?_ (toList_civilText t first last) <;> omega

/-- The years of four digits lie where seconds can be counted exactly. -/
theorem bounds_of_inFourDigits (years : InFourDigits t) :
    -2 ^ 52 < t ∧ t < 2 ^ 52 := by
  obtain ⟨d, day, first, last⟩ := years
  obtain ⟨valid, days⟩ := day.spec
  obtain ⟨low, high⟩ := Date.toDays_bounds valid
  have low' := Calendar.firstDay_mono first
  have high' := Calendar.firstDay_mono (show d.year + 1 ≤ 10000 by omega)
  have start : Calendar.firstDay 1000 = -354285 := by decide
  have stop : Calendar.firstDay 10000 = 2932897 := by decide
  omega

theorem display_eq (years : InFourDigits t) (nonzero : t ≠ 0) : display t = .ok (civilText t) := by
  obtain ⟨low, high⟩ := bounds_of_inFourDigits years
  obtain ⟨d, day, first, last⟩ := years
  have year : Calendar.yearOf (t / 86400) = d.year := by
    obtain ⟨valid, days⟩ := day.spec
    rw [← days, Date.yearOf_toDays valid]
  have known : Calendar.isYear d.year = true := by
    simp only [Calendar.isYear, Bool.and_eq_true, decide_eq_true_eq]
    omega
  rw [display, if_neg nonzero, if_neg (by omega), if_neg (by omega), year, if_pos known]

/-! ### Reading it -/

theorem micros?_written (valid : d.isValid = true) (first : 1000 ≤ d.year) (last : d.year ≤ 9999)
    (inDay : hours < 24) (inHour : minutes < 60) (inMinute : seconds < 60) :
    micros? (dateText d ++ ' ' :: clockText hours minutes seconds) =
      some ((d.toDays * 86400 + ((hours * 60 + minutes) * 60 + seconds)) * 1000000) := by
  have unsigned : ∀ c ∈ clockText hours minutes seconds, isSign c = false := isSign_clockText _ _ _
  have proper : (⟨hours, minutes, seconds, 0⟩ : Clock).isTimeOfDay = true := by
    simp [Clock.isTimeOfDay, inDay, inHour, inMinute]
  have read := timeOfDay?_append unsigned (show ∀ c ∈ [].head?, isSign c = true from nofun)
    (clock?_clockText (by omega) (by omega) (by omega)) proper rfl
  rw [List.append_nil] at read
  have micros : (⟨hours, minutes, seconds, 0⟩ : Clock).toMicros =
      (((hours * 60 + minutes) * 60 + seconds : Int)) * 1000000 := Int.add_zero _
  rw [micros?_dateText valid (by omega) last ' ' read, micros]
  congr 1
  omega

/-- What is shown for a point in time is read as that point. -/
theorem epoch_of_shows {text : String} (years : InFourDigits t) (h : Shows t text) :
    epoch text = t := by
  obtain ⟨low, high⟩ := bounds_of_inFourDigits years
  obtain ⟨e, day', first, last⟩ := years
  obtain @⟨d, hours, minutes, seconds, day, inDay, inHour, inMinute, time, written⟩ := h
  obtain rfl : d = e := by rw [Date.fallsOn_iff_eq_ofDays.mp day, Date.fallsOn_iff_eq_ofDays.mp day']
  obtain ⟨valid, days⟩ := day.spec
  have noPoint : '.' ∉ text.toList := by
    rw [written]
    apply not_mem_dateTime <;> decide
  have noZulu : 'Z' ∉ text.toList := by
    rw [written]
    apply not_mem_dateTime <;> decide
  have read : micros? (spellZulu (cutFractions none text.toList)) = some (t * 1000000) := by
    rw [cutFractions_eq_self noPoint, spellZulu_eq_self noZulu, written,
      micros?_written valid first last inDay inHour inMinute, days]
    congr 1
    omega
  rw [epoch_eq read, wholeSeconds_mul low high]

theorem display_zero : display 0 = .ok "-" := rfl

theorem epoch_hyphen : epoch "-" = 0 := by decide

/-- A point in time is shown, and what is shown is read as that point. -/
theorem exists_display (years : InFourDigits t) : ∃ text, display t = .ok text ∧ epoch text = t ∧
    if t = 0 then text = "-" else Shows t text := by
  by_cases zero : t = 0
  · subst zero
    exact ⟨"-", display_zero, epoch_hyphen, rfl⟩
  · have shows := shows_civilText years
    refine ⟨civilText t, display_eq years zero, epoch_of_shows years shows, ?_⟩
    rw [if_neg zero]
    exact shows

/-- In the years of four digits each point in time is shown by a text of its own, which is read as
that point again. It is the date and time of day in universal time, but for the epoch itself. -/
theorem display_read_back (years : InFourDigits t) : ∃ text, display t = .ok text ∧ epoch text = t ∧
    (if t = 0 then text = "-" else Shows t text) ∧
    ∀ u, InFourDigits u → display u = .ok text → u = t := by
  obtain ⟨text, shown, read, form⟩ := exists_display years
  refine ⟨text, shown, read, form, ?_⟩
  intro u years' shown'
  obtain ⟨text', shown'', read', -⟩ := exists_display years'
  rw [shown'] at shown''
  obtain rfl := Except.ok.inj shown''
  exact read'.symm.trans read

/-- The first second of the year 1000. -/
theorem display_read_back_first : InFourDigits (-30610224000) ∧
    display (-30610224000) = .ok "1000-01-01 00:00:00" ∧
    epoch "1000-01-01 00:00:00" = -30610224000 := by
  have day : (⟨1000, 1, 1⟩ : Date).FallsOn (-30610224000 / 86400) := Date.fallsOn_iff.mpr (by decide)
  have years : InFourDigits (-30610224000) := ⟨_, day, by decide, by decide⟩
  obtain ⟨text, shown, read, -⟩ := display_read_back years
  have written : display (-30610224000) = .ok "1000-01-01 00:00:00" := by decide
  rw [written] at shown
  obtain rfl := Except.ok.inj shown
  exact ⟨years, written, read⟩

end DevEnv.Timestamp
