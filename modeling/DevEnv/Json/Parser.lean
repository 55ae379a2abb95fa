import DevEnv.Json.Basic
import DevEnv.Text.Integer
import DevEnv.Text.Surrogate

/-!
Reading JSON text. The grammar is that of the standard, widened by the three words for numbers that
are none (`NaN`, `Infinity`, `-Infinity`). A repeated key takes its last value. Integers that are
too long and values that are nested too deeply are faults of their own. How long an integer may be
is a setting of the platform, which readers that are told nothing leave at its usual value.
-/

namespace DevEnv.Json

set_option autoImplicit false

def isSpace (c : Char) : Bool :=
  c == ' ' || c == '\t' || c == '\n' || c == '\r'

def skipSpace (cs : List Char) : List Char := cs.dropWhile isSpace

/-- What a backslash and one letter stand for. -/
def escape? (c : Char) : Option Nat :=
  match c with
  | '"' => some 0x22
  | '\\' => some 0x5C
  | '/' => some 0x2F
  | 'b' => some 0x08
  | 'f' => some 0x0C
  | 'n' => some 0x0A
  | 'r' => some 0x0D
  | 't' => some 0x09
  | _ => none

/-- The number of four hexadecimal digits. -/
def unit? (a b c d : Char) : Option Nat := do
  let a ← Text.hexDigit? a
  let b ← Text.hexDigit? b
  let c ← Text.hexDigit? c
  let d ← Text.hexDigit? d
  return ((a * 16 + b) * 16 + c) * 16 + d

/-- The code points of a string up to its closing quote, halves of pairs each on their own, and the
text after the quote. -/
def stringPoints : List Char → Option (List Nat × List Char)
  | [] => none
  | c :: rest =>
    if c = '"' then some ([], rest)
    else if c = '\\' then
      match rest with
      | 'u' :: a :: b :: c :: d :: more => do
        let n ← unit? a b c d
        let (ns, after) ← stringPoints more
        return (n :: ns, after)
      | e :: more => do
        let n ← escape? e
        let (ns, after) ← stringPoints more
        return (n :: ns, after)
      | [] => none
    else if c.toNat < 0x20 then none
    else do
      let (ns, after) ← stringPoints rest
      return (c.toNat :: ns, after)

/-- Why a text spells no value. -/
inductive ParseFault
  | malformed
  /-- An integer with too many digits. -/
  | integerTooLong
  /-- A list, or else an object, below too many others. -/
  | tooDeep (isList : Bool)
deriving DecidableEq, Repr

abbrev Parsed (α : Type) := Except ParseFault α

/-- The code points of a string that begins after its opening quote. -/
def string (cs : List Char) : Parsed (List Nat × List Char) :=
  match stringPoints cs with
  | some (ns, after) => .ok (Text.joinPairs ns, after)
  | none => .error .malformed

/-- The text of code points, if all of them are characters. -/
def textOfPoints? (ns : List Nat) : Option String :=
  if ns.any Text.isSurrogate then none else some (String.ofList (ns.map Char.ofNat))

/-- The text of code points, broken where some of them are halves. -/
def ofPoints (ns : List Nat) : Json := ((textOfPoints? ns).map .text).getD (.brokenText ns)

/-- Binds a key that is given by its code points. A broken key names no field and is left out. -/
def bindPoints (key : List Nat) (value : Json) (found : List (String × Json)) :
    List (String × Json) :=
  match textOfPoints? key with
  | some s => bind s value found
  | none => found

def digits (cs : List Char) : List Char × List Char := cs.span Char.isDigit

def digitsValue (ds : List Char) : Nat := Text.ofDigits (ds.map fun c => c.toNat - 48)

/-- The fraction after a number, empty unless a point and a digit follow. -/
def fraction (cs : List Char) : List Char × List Char :=
  match cs with
  | '.' :: more =>
    let (ds, after) := digits more
    if ds.isEmpty then ([], cs) else (ds, after)
  | _ => ([], cs)

/-- The power of ten after a number, if there is one. -/
def exponent (cs : List Char) : Option Int × List Char :=
  match cs with
  | e :: more =>
    if e = 'e' ∨ e = 'E' then
      let (negative, body) := Text.splitSign more
      let (ds, after) := digits body
      if ds.isEmpty then (none, cs) else (some (Text.signed negative (digitsValue ds)), after)
    else (none, cs)
  | [] => (none, cs)

/-- The digits of a numeral and the text after them; a zero in front is a numeral of its own. -/
def numeralDigits (cs : List Char) : List Char × List Char :=
  match cs with
  | '0' :: more => (['0'], more)
  | _ => digits cs

/-- The text after a word, if the text begins with it. -/
def after? : List Char → List Char → Option (List Char)
  | [], cs => some cs
  | w :: ws, c :: cs => if w = c then after? ws cs else none
  | _ :: _, [] => none

/-- Words and the values that they stand for. -/
def words : List (List Char × Json) := [
  ("null".toList, .null), ("true".toList, .bool true), ("false".toList, .bool false),
  ("NaN".toList, .real .undefined), ("Infinity".toList, .real (.infinite false)),
  ("-Infinity".toList, .real (.infinite true))]

/-- The value of the word that a text begins with, and the text after it. -/
def word? (cs : List Char) : Option (Json × List Char) :=
  words.findSome? fun (w, v) => (after? w cs).map fun rest => (v, rest)

/-- How many digits an integer may have; with none, as many as it likes. -/
abbrev DigitLimit := Option Nat

/-- Whether so many digits are within the limit. -/
def DigitLimit.allows (limit : DigitLimit) (count : Nat) : Bool := limit.all (count ≤ ·)

def DigitLimit.usual : DigitLimit := some Text.maxDigits

section Limited
variable (limit : DigitLimit)

/-- A number without its sign. -/
def unsigned (negative : Bool) (cs : List Char) : Parsed (Json × List Char) :=
  let (ds, after) := numeralDigits cs
  if ds.isEmpty then .error .malformed
  else
    let (fs, after) := fraction after
    let (power, after) := exponent after
    if fs.isEmpty && power.isNone then
      if limit.allows ds.length then
        .ok (.integer (Text.signed negative (digitsValue ds)), after)
      else .error .integerTooLong
    else
      let e := power.getD 0 - fs.length
      .ok (.real (.ofDecimal negative (digitsValue (ds ++ fs)) e), after)

/-- A word or a number. -/
def scalar (cs : List Char) : Parsed (Json × List Char) :=
  match word? cs with
  | some r => .ok r
  | none => match cs with
    | '-' :: rest => unsigned limit true rest
    | _ => unsigned limit false cs

/-- So many lists and objects may be nested. -/
def maxDepth : Nat := 989

mutual

/-- One value and the text after it, in which lists and objects may be nested `depth` deep. Every
value takes one unit of `fuel`. -/
def value : Nat → Nat → List Char → Parsed (Json × List Char)
  | 0, _, _ => .error .malformed
  | fuel + 1, depth, cs =>
    match cs with
    | '"' :: rest =>
      (string rest).map fun (ns, after) => (ofPoints ns, after)
    | '[' :: rest =>
      match depth with
      | 0 => .error (.tooDeep true)
      | depth + 1 =>
        match skipSpace rest with
        | ']' :: after => .ok (.list [], after)
        | rest => (items fuel depth rest).map fun (vs, after) => (.list vs, after)
    | '\x7b' :: rest =>
      match depth with
      | 0 => .error (.tooDeep false)
      | depth + 1 =>
        match skipSpace rest with
        | '\x7d' :: after => .ok (.object [], after)
        | rest => (members fuel depth [] rest).map fun (ms, after) => (.object ms, after)
    | _ => scalar limit cs

/-- The values of a list up to its closing bracket. -/
def items : Nat → Nat → List Char → Parsed (List Json × List Char)
  | 0, _, _ => .error .malformed
  | fuel + 1, depth, cs => do
    let (v, rest) ← value fuel depth cs
    match skipSpace rest with
    | ']' :: after => .ok ([v], after)
    | ',' :: rest =>
      let (vs, after) ← items fuel depth (skipSpace rest)
      .ok (v :: vs, after)
    | _ => .error .malformed

/-- The members of an object up to its closing brace, bound after those in `found`. -/
def members : Nat → Nat → List (String × Json) → List Char →
    Parsed (List (String × Json) × List Char)
  | 0, _, _, _ => .error .malformed
  | fuel + 1, depth, found, cs =>
    match cs with
    | '"' :: rest => do
      let (key, rest) ← string rest
      match skipSpace rest with
      | ':' :: rest =>
        let (v, rest) ← value fuel depth (skipSpace rest)
        let found := bindPoints key v found
        match skipSpace rest with
        | '\x7d' :: after => .ok (found, after)
        | ',' :: rest => members fuel depth found (skipSpace rest)
        | _ => .error .malformed
      | _ => .error .malformed
    | _ => .error .malformed

end

/-- The value that a whole text spells, white space around it allowed. -/
def parseWithin (s : String) : Except ParseFault Json := do
  let cs := skipSpace s.toList
  let (v, rest) ← value limit (cs.length + 1) maxDepth cs
  if (skipSpace rest).isEmpty then .ok v else .error .malformed

end Limited

def parse (s : String) : Except ParseFault Json := parseWithin .usual s

end DevEnv.Json
