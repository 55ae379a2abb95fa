import DevEnv.Text.Ranges
import DevEnv.Text.WordTable

/-!
Escape sequences of terminals. A control sequence is an escape character, a bracket, parameters,
intermediate characters and a final one; a link is a text between two commands of its own.
-/

namespace DevEnv.Text

set_option autoImplicit false

/-- Whether the code point of a character lies between two others, both included. -/
def isBetween (low high : Nat) (c : Char) : Bool := low ≤ c.toNat && c.toNat ≤ high

/-- The length of a control sequence after its escape character, if one follows. -/
def controlLength? : List Char → Option Nat
  | '[' :: rest =>
    let parameters := (rest.takeWhile (isBetween 0x30 0x3F)).length
    let rest := rest.drop parameters
    let intermediates := (rest.takeWhile (isBetween 0x20 0x2F)).length
    match rest.drop intermediates with
    | c :: _ =>
      if isBetween 0x40 0x7E c then some (parameters + intermediates + 2) else none
    | [] => none
  | _ => none

/-- The characters outside control sequences; `skip` more characters belong to one. -/
def outsideCodes (skip : Nat) : List Char → List Char
  | [] => []
  | c :: rest =>
    match skip with
    | n + 1 => outsideCodes n rest
    | 0 =>
      match if c = '\x1b' then controlLength? rest else none with
      | some n => outsideCodes n rest
      | none => c :: outsideCodes 0 rest

/-- A text without its control sequences. -/
def withoutCodes (s : String) : String := String.ofList (outsideCodes 0 s.toList)

/-! ### Links -/

/-- The pieces of a text between the characters that `p` marks. -/
def splitAt (p : Char → Bool) : List Char → List (List Char)
  | [] => [[]]
  | c :: rest =>
    if p c then [] :: splitAt p rest
    else match splitAt p rest with
      | [] => [[c]]
      | piece :: pieces => (c :: piece) :: pieces

/-- Letters and numbers of every script, and the underscore. -/
def isWordChar (c : Char) : Bool := c.isAlphanum || c == '_' || inRanges wordRanges c.toNat

/-- Names and values around equals signs: between two signs stand a value and the next name. -/
def arePairs (cs : List Char) : Bool :=
  match splitAt (· == '=') cs with
  | first :: rest@(_ :: _) =>
    !first.isEmpty && first.all isWordChar &&
      rest.dropLast.all (fun p => 2 ≤ p.length && p.all isWordChar) &&
      rest.getLast?.any fun p => !p.isEmpty && p.all isWordChar
  | _ => false

/-- The parameters of a link: pairs, with a colon after any of them. -/
def areLinkParameters (cs : List Char) : Bool :=
  let pieces := splitAt (· == ':') cs
  pieces.dropLast.all arePairs && pieces.getLast?.any fun p => p.isEmpty || arePairs p

/-- The text after a mark, if the text begins with it. -/
def afterMark? (mark cs : List Char) : Option (List Char) :=
  if mark.isPrefixOf cs then some (cs.drop mark.length) else none

/-- The characters up to the next escape character, of which there have to be some. -/
def plainRun? (cs : List Char) : Option (List Char) :=
  let run := cs.takeWhile (· != '\x1b')
  if run.isEmpty then none else some run

/-- The text of a link after its escape character, and the length of the whole. -/
def link? (cs : List Char) : Option (List Char × Nat) := do
  let afterOpening ← afterMark? "]8;".toList cs
  let parameters := afterOpening.takeWhile (· != ';')
  let afterParameters ← afterMark? [';'] (afterOpening.drop parameters.length)
  if !areLinkParameters parameters then none
  let target ← plainRun? afterParameters
  let afterTarget ← afterMark? ['\x1b', '\\'] (afterParameters.drop target.length)
  let text ← plainRun? afterTarget
  let rest ← afterMark? "\x1b]8;;\x1b\\".toList (afterTarget.drop text.length)
  return (text, cs.length - rest.length)

/-- The characters that a terminal shows: no control sequences, and of links their texts. -/
def shownChars (skip : Nat) : List Char → List Char
  | [] => []
  | c :: rest =>
    match skip with
    | n + 1 => shownChars n rest
    | 0 =>
      if c = '\x1b' then
        match controlLength? rest, link? rest with
        | some n, _ => shownChars n rest
        | none, some (text, n) => text ++ shownChars n rest
        | none, none => c :: shownChars 0 rest
      else c :: shownChars 0 rest

/-- How many places a text takes on a terminal. -/
def shownLength (cs : List Char) : Nat := (shownChars 0 cs).length

end DevEnv.Text
