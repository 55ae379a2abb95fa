import DevEnv.Binary64
import DevEnv.Text.Digit
import DevEnv.Time.Calendar

/-!
Reading timestamps: a calendar or week date, then any one character and a time of day with an
optional fraction, then an optional offset from universal time. The answer is in whole seconds.
-/

namespace DevEnv.Timestamp

set_option autoImplicit false

-- Powers of core, whatever other instances are in scope.
attribute [local instance (2000)] instPowNat

/-- Shortens fractions to six digits. `room` says how many more digits of the fraction at hand may
stay, and is none outside fractions. -/
def cutFractions (room : Option Nat) : List Char → List Char
  | [] => []
  | c :: rest =>
    match room, Text.decimalValue? c with
    | some 0, some _ => cutFractions (some 0) rest
    | some (n + 1), some _ => c :: cutFractions (some n) rest
    | _, _ => c :: cutFractions (if c = '.' then some 6 else none) rest

/-- Writes the letter for universal time as an offset. -/
def spellZulu (cs : List Char) : List Char :=
  cs.flatMap fun c => if c = 'Z' then "+00:00".toList else [c]

/-- The number that exactly `k` ASCII digits spell, and the text after them. -/
def number? (k : Nat) (cs : List Char) : Option (Nat × List Char) :=
  let ds := cs.take k
  if ds.length = k ∧ ds.all Char.isDigit then
    some (Text.ofDigits (ds.map fun c => c.toNat - 48), cs.drop k)
  else none

/-- How many characters at the front are the date. Where a week date and what follows could be cut
in two ways, a hyphen is taken as the separator, and times have an even number of digits. -/
def dateLength (cs : List Char) : Nat :=
  if cs.length = 7 then 7
  else if cs[4]? = some '-' then
    if cs[5]? = some 'W' then
      if cs[8]? = some '-' && !(cs[10]?).any Char.isDigit then 10 else 8
    else 10
  else if cs[4]? = some 'W' then
    let n := 7 + ((cs.drop 7).takeWhile Char.isDigit).length
    if n < 9 then n else if n % 2 = 0 then 7 else 8
  else 8

/-- The text after a hyphen, or the whole text where none is due. -/
def hyphen? (due : Bool) (cs : List Char) : Option (List Char) :=
  if due then
    match cs with
    | '-' :: rest => some rest
    | _ => none
  else some cs

/-- The day of a week date after its year. -/
def weekDate? (year : Int) (hyphens : Bool) (cs : List Char) : Option Int := do
  let (week, rest) ← number? 2 cs
  if rest.isEmpty then Calendar.weekDay? year week 1
  else
    let (day, rest) ← number? 1 (← hyphen? hyphens rest)
    if rest.isEmpty then Calendar.weekDay? year week day else none

/-- The day of a calendar date after its year. -/
def calendarDate? (year : Int) (hyphens : Bool) (cs : List Char) : Option Int := do
  let (month, rest) ← number? 2 cs
  let (day, rest) ← number? 2 (← hyphen? hyphens rest)
  let date : Date := ⟨year, month, day⟩
  if rest.isEmpty && date.isValid then some date.toDays else none

/-- The day that a date names. -/
def date? (cs : List Char) : Option Int := do
  let (year, rest) ← number? 4 cs
  let (hyphens, rest) := match rest with
    | '-' :: more => (true, more)
    | _ => (false, rest)
  let n ← match rest with
    | 'W' :: more => weekDate? year hyphens more
    | _ => calendarDate? year hyphens rest
  if Calendar.isYear year && Calendar.isYear (Calendar.yearOf n) then some n else none

/-- A time of day, or a distance from universal time. -/
structure Clock where
  hours : Nat
  minutes : Nat
  seconds : Nat
  micros : Nat
deriving DecidableEq, Repr

namespace Clock

def toMicros (c : Clock) : Int :=
  ((c.hours * 60 + c.minutes) * 60 + c.seconds : Int) * 1000000 + c.micros

/-- Times that a clock shows. -/
def isTimeOfDay (c : Clock) : Bool := c.hours < 24 && c.minutes < 60 && c.seconds < 60

/-- Distances of less than a day. -/
def isOffset (c : Clock) : Bool := c.toMicros < 86400000000

/-- The clock as a distance; the fraction of one below a second does not count. -/
def distance (c : Clock) : Int := if c.toMicros < 1000000 then 0 else c.toMicros

end Clock

/-- A null character ends the text wherever it stands at the end of a clock. -/
def isEnd (c : Char) : Bool := c == '\x00'

/-- A clock with one character left over, which has to be a plain one. -/
def withLeftover (clock : Clock) (c : Char) : Option (Clock × Bool) :=
  if c.toNat < 128 then some (clock, !isEnd c) else none

def isFractionMark (c : Char) : Bool := c == '.' || c == ','

/-- A fraction in microseconds, later digits dropped, and whether text is left over. -/
def fraction? (cs : List Char) : Option (Nat × Bool) := do
  let k := min 6 cs.length
  let (n, rest) ← number? k cs
  let left := match rest.dropWhile Char.isDigit with
    | [] => false
    | c :: _ => !isEnd c
  return (n * 10 ^ (6 - k), left)

/-- Seconds and what may follow them. -/
def seconds? (hours minutes : Nat) (colons : Bool) (cs : List Char) : Option (Clock × Bool) := do
  let (seconds, rest) ← number? 2 cs
  let whole : Clock := ⟨hours, minutes, seconds, 0⟩
  match rest with
  | [] => return (whole, false)
  | [c] => withLeftover whole c
  | c :: more =>
    let (micros, left) ←
      if isFractionMark c || (colons && c == ':') then fraction? more
      else if colons then none
      else fraction? rest
    return (⟨hours, minutes, seconds, micros⟩, left)

/-- Minutes and what may follow them. -/
def minutes? (hours : Nat) (colons : Bool) (cs : List Char) : Option (Clock × Bool) := do
  let (minutes, rest) ← number? 2 cs
  let whole : Clock := ⟨hours, minutes, 0, 0⟩
  match rest with
  | [] => return (whole, false)
  | [c] => withLeftover whole c
  | c :: more =>
    if colons && c == ':' then seconds? hours minutes true more
    else if isFractionMark c then
      let (micros, left) ← fraction? more
      return (⟨hours, minutes, 0, micros⟩, left)
    else if colons then none
    else seconds? hours minutes false rest

/-- A clock with colons or without, and whether text is left over after it. The fraction of a clock
that stops early is one of a second all the same. -/
def clock? (cs : List Char) : Option (Clock × Bool) := do
  let (hours, rest) ← number? 2 cs
  let whole : Clock := ⟨hours, 0, 0, 0⟩
  match rest with
  | [] => return (whole, false)
  | [c] => withLeftover whole c
  | c :: more =>
    if c == ':' then minutes? hours true more
    else if isFractionMark c then
      let (micros, left) ← fraction? more
      return (⟨hours, 0, 0, micros⟩, left)
    else minutes? hours false rest

def isSign (c : Char) : Bool := c == '+' || c == '-'

/-- The distance from universal time, which nothing may follow. -/
def offset? (cs : List Char) : Option Int :=
  match cs with
  | [] => some 0
  | sign :: rest =>
    match clock? rest with
    | some (c, false) =>
      if c.isOffset then some (if sign = '-' then -c.distance else c.distance) else none
    | _ => none

/-- Microseconds of universal time since the start of the day. Text left over after the clock is let
pass in front of an offset. -/
def timeOfDay? (cs : List Char) : Option Int := do
  let (body, tail) := cs.span fun c => !isSign c
  let (clock, left) ← clock? body
  let offset ← offset? tail
  if clock.isTimeOfDay && (!left || !tail.isEmpty) then some (clock.toMicros - offset) else none

/-- Microseconds since the start of 1970 in universal time. -/
def micros? (cs : List Char) : Option Int := do
  let n := dateLength cs
  let day ← date? (cs.take n)
  let time ← match cs.drop n with
    | [] => some 0
    | _ :: rest => timeOfDay? rest
  return day * 86400000000 + time

/-- Seconds, cut toward zero after the quotient has been rounded to a binary number. -/
def wholeSeconds (micros : Int) : Int :=
  ((Binary64.ofRatio (micros < 0) micros.natAbs 1000000).truncate?).getD 0

/-- Seconds since the start of 1970; zero for what is no timestamp. -/
def epoch (s : String) : Int :=
  match micros? (spellZulu (cutFractions none s.toList)) with
  | some n => wholeSeconds n
  | none => 0

end DevEnv.Timestamp
