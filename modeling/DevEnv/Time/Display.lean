import DevEnv.Time.Calendar

/-!
Showing points in time, in universal time and whole seconds.
-/

namespace DevEnv.Timestamp

set_option autoImplicit false

-- Powers of core, whatever other instances are in scope.
attribute [local instance (2000)] instPowNat

/-- Why a count of seconds has no date to show. -/
inductive DisplayFault
  /-- It does not fit into 64 bits. -/
  | tooWide
  /-- Its year does not fit into 32 bits. -/
  | noYear
  /-- Its year is not one of 1 to 9999. -/
  | yearOutOfRange
deriving DecidableEq, Repr

/-- A number in at least two digits. -/
def twoDigits (n : Nat) : String := if n < 10 then "0" ++ toString n else toString n

/-- The date and the time of day; the year is not padded. -/
def civilText (seconds : Int) : String :=
  let date := Date.ofDays (seconds / 86400)
  let rest := (seconds % 86400).toNat
  toString date.year ++ "-" ++ twoDigits date.month ++ "-" ++ twoDigits date.day ++ " " ++
    twoDigits (rest / 3600) ++ ":" ++ twoDigits (rest / 60 % 60) ++ ":" ++ twoDigits (rest % 60)

/-- A point in time for a reader; the epoch itself stands for an unknown one. -/
def display (seconds : Int) : Except DisplayFault String :=
  if seconds = 0 then .ok "-"
  else if seconds < -2 ^ (63 : Nat) ∨ 2 ^ (63 : Nat) ≤ seconds then .error .tooWide
  else if seconds < -67768040609740800 ∨ 67768036191676799 < seconds then .error .noYear
  else if Calendar.isYear (Calendar.yearOf (seconds / 86400)) then .ok (civilText seconds)
  else .error .yearOutOfRange

end DevEnv.Timestamp
