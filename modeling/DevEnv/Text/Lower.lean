import DevEnv.Text.CaseTable
import DevEnv.Text.Ranges

/-!
Full lower-casing. A letter may become two (`İ`), and a capital sigma becomes the final form exactly
at the end of a word.
-/

namespace DevEnv.Text

set_option autoImplicit false

def isCased (c : Char) : Bool := inRanges casedRanges c.toNat

def isCaseIgnorable (c : Char) : Bool := inRanges caseIgnorableRanges c.toNat

/-- The simple lower-case form of an upper-case code point above ASCII. -/
def lowerPoint? (n : Nat) : Option Nat :=
  lowerRuns.findSome? fun (first, last, step, image) =>
    if first ≤ n ∧ n ≤ last ∧ (n - first) % step = 0 then some (image + (n - first)) else none

/-- The lower-case form of a character that is no capital sigma. -/
def lowerChar (c : Char) : List Char :=
  if c.toNat < 128 then [c.toLower]
  else if c = 'İ' then ['i', '\u0307']
  else match lowerPoint? c.toNat with
    | some n => [Char.ofNat n]
    | none => [c]

/-- Whether the first character that word tests do not look through is a cased letter. -/
def beginsCased (cs : List Char) : Bool :=
  match cs.dropWhile isCaseIgnorable with
  | [] => false
  | c :: _ => isCased c

/-- The lower-case form of a text whose characters before it, last first, are `before`. -/
def lowerAfter (before : List Char) : List Char → List Char
  | [] => []
  | c :: rest =>
    let here :=
      if c = 'Σ' then
        if beginsCased before && !beginsCased rest then ['ς'] else ['σ']
      else lowerChar c
    here ++ lowerAfter (c :: before) rest

def lower (s : String) : String :=
  String.ofList (lowerAfter [] s.toList)

end DevEnv.Text
