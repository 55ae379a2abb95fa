import DevEnv.Json.Basic
import DevEnv.Text.WholeNumber
import DevEnv.Validation.Issue

/-!
Reading typed values out of JSON. Readers report every issue there is, in the order in which the
fields are declared, and accept some values of a neighbouring type: whole numbers written as text,
and the usual words for yes and no.
-/

namespace DevEnv

set_option autoImplicit false

-- Powers of core, whatever other instances are in scope.
attribute [local instance (2000)] instPowNat

/-- A value, or all that is wrong with what should have been one. -/
abbrev Checked (α : Type) := Except (List Issue) α

namespace Checked

/-- Both values, or the issues of the first and then of the second. -/
def both {α β : Type} : Checked α → Checked β → Checked (α × β)
  | .ok a, .ok b => .ok (a, b)
  | .ok _, .error js => .error js
  | .error is, .ok _ => .error is
  | .error is, .error js => .error (is ++ js)

/-- The issues, seen from the value that holds the part. -/
def under {α : Type} (step : PathStep) : Checked α → Checked α
  | .ok a => .ok a
  | .error is => .error (is.map fun i => { i with path := step :: i.path })

/-- The outcome of a domain rule, as an issue of the value itself. -/
def ofRule {α : Type} : Except Refusal α → Checked α
  | .ok a => .ok a
  | .error cause => .error [⟨[], .refused cause⟩]

end Checked

namespace Reader

abbrev Fields := List (String × Json)

def fail {α : Type} (p : Problem) : Checked α := .error [⟨[], p⟩]

def text : Json → Checked String
  | .text s => .ok s
  | _ => fail .notText

/-- Integers of 64 bits, less the lowest one. -/
def isWord (n : Int) : Bool := n.natAbs < 2 ^ (63 : Nat)

/-- A real number counts as an integer if it is one of 64 bits. -/
def integerOfReal (x : Binary64) : Checked Int :=
  if !x.isFinite then fail .notFinite
  else match x.toInt? with
    | some n => if isWord n then .ok n else fail .oversizedInteger
    | none => fail .fractional

def integerOfText (s : String) : Checked Int :=
  match Text.wholeNumber s with
  | .ok n => .ok n
  | .error .tooLong => fail .oversizedInteger
  | .error .malformed => fail .unreadableInteger

def integer : Json → Checked Int
  | .integer n => .ok n
  | .bool b => .ok (if b then 1 else 0)
  | .real x => integerOfReal x
  | .text s => integerOfText s
  | _ => fail .notInteger

/-- Words for no, in lower case. -/
def noWords : List String := ["0", "off", "f", "false", "n", "no"]

/-- Words for yes, in lower case. -/
def yesWords : List String := ["1", "on", "t", "true", "y", "yes"]

/-- Zero as no and one as yes; numbers of more than 64 bits are nothing of the kind. -/
def flagOfInteger (n : Int) : Checked Bool :=
  if n = 0 then .ok false
  else if n = 1 then .ok true
  else fail (if isWord n || n = -2 ^ (63 : Nat) then .unreadableFlag else .notFlag)

/-- A word for yes or no in whatever case. -/
def flagOfText (s : String) : Checked Bool :=
  let word := String.ofList (s.toList.map Char.toLower)
  if noWords.contains word then .ok false
  else if yesWords.contains word then .ok true
  else fail .unreadableFlag

def flag : Json → Checked Bool
  | .bool b => .ok b
  | .integer n => flagOfInteger n
  | .real x =>
    match integerOfReal x with
    | .ok n => flagOfInteger n
    | .error _ => fail .notFlag
  | .text s => flagOfText s
  | _ => fail .notFlag

/-- The value, or none for null. -/
def nullable {α : Type} (read : Json → Checked α) : Json → Checked (Option α)
  | .null => .ok none
  | v => (read v).map some

/-- The items from an index on. -/
def itemsFrom {α : Type} (read : Json → Checked α) (i : Nat) : List Json → Checked (List α)
  | [] => .ok []
  | v :: vs =>
    (((read v).under (.index i)).both (itemsFrom read (i + 1) vs)).map fun (a, as) => a :: as

def listOf {α : Type} (read : Json → Checked α) : Json → Checked (List α)
  | .list items => itemsFrom read 0 items
  | _ => fail .notList

/-- An object whose fields are read together; keys that no reader asks for do not matter. -/
def record {α : Type} (kind : String) (read : Fields → Checked α) : Json → Checked α
  | .object fields => read fields
  | _ => fail (.notRecord kind)

def required {α : Type} (name : String) (read : Json → Checked α) (fields : Fields) : Checked α :=
  match fields.lookup name with
  | some v => (read v).under (.field name)
  | none => .error [⟨[.field name], .missing⟩]

/-- A field that may be absent; a null is not absence. -/
def defaulted {α : Type} (name : String) (default : α) (read : Json → Checked α)
    (fields : Fields) : Checked α :=
  match fields.lookup name with
  | some v => (read v).under (.field name)
  | none => .ok default

end Reader

end DevEnv
