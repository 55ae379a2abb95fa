import DevEnv.Text.Digit

/-!
Halves of surrogate pairs. A half is no character, so a text that must hold one holds a stand-in for
it: a private character that occurs nowhere else in what the text is made of.
-/

namespace DevEnv.Text

set_option autoImplicit false

def isHighSurrogate (n : Nat) : Bool := 0xD800 ≤ n && n < 0xDC00

def isLowSurrogate (n : Nat) : Bool := 0xDC00 ≤ n && n < 0xE000

def isSurrogate (n : Nat) : Bool := 0xD800 ≤ n && n < 0xE000

/-- The code point of a high half and the low half after it. -/
def pairPoint (high low : Nat) : Nat := 0x10000 + (high - 0xD800) * 0x400 + (low - 0xDC00)

/-- Code points in which halves that make a pair have become one code point. -/
def joinPairs : List Nat → List Nat
  | n :: m :: rest =>
    if isHighSurrogate n && isLowSurrogate m then pairPoint n m :: joinPairs rest
    else n :: joinPairs (m :: rest)
  | ns => ns

/-! ### Stand-ins -/

/-- Halves, each with the character that stands for it. -/
structure StandIns where
  pairs : List (Nat × Char)
deriving DecidableEq, Repr

namespace StandIns

def none : StandIns := ⟨[]⟩

/-- The first of the private characters that can be stand-ins. -/
def firstPrivate : Nat := 0xF0000

/-- Private characters that are not among the code points. As many candidates as there are
characters to keep clear of, and as many more as are asked for, leave enough of them free, up to the
last code point. -/
def free (count : Nat) (points : List Nat) : List Nat :=
  let taken := (points.filter (firstPrivate ≤ ·)).eraseDups
  ((List.range (taken.length + count)).map (firstPrivate + ·)).filter fun n =>
    !taken.contains n && n < 0x110000

/-- Stand-ins for the halves among code points; none of them is among the code points itself. -/
def avoiding (points : List Nat) : StandIns :=
  let halves := (points.filter isSurrogate).eraseDups
  ⟨halves.zip ((free halves.length points).map Char.ofNat)⟩

/-- The character for a code point: its own, or the stand-in of a half. -/
def char (d : StandIns) (n : Nat) : Char := (d.pairs.lookup n).getD (Char.ofNat n)

/-- The half that a character stands for, if it is a stand-in. -/
def half? (d : StandIns) (c : Char) : Option Nat := (d.pairs.find? fun p => p.2 == c).map (·.1)

/-- The text of code points. -/
def text (d : StandIns) (points : List Nat) : String := String.ofList (points.map d.char)

/-- The code points of a text. -/
def points (d : StandIns) (s : String) : List Nat :=
  s.toList.map fun c => (d.half? c).getD c.toNat

/-- Whether a text holds a half. -/
def occurIn (d : StandIns) (s : String) : Bool := s.toList.any fun c => (d.half? c).isSome

end StandIns

/-- What is said of code points that have to be encoded and cannot: the place of the first run of
halves. -/
def encodingComplaint (points : List Nat) : String :=
  let place := (points.takeWhile fun n => !isSurrogate n).length
  let run := (points.drop place).takeWhile isSurrogate
  let what :=
    match run with
    | [n] => " '\\u" ++ String.ofList (hex 4 n) ++ "' in position " ++ toString place
    | _ => "s in position " ++ toString place ++ "-" ++ toString (place + run.length - 1)
  "'utf-8' codec can't encode character" ++ what ++ ": surrogates not allowed"

end DevEnv.Text
