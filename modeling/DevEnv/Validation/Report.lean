import DevEnv.Json.Display
import DevEnv.Validation.Issue

/-!
Reports on values that could not be read. A report counts the issues and shows each one with the way
to it, its kind, and the value that has it.
-/

namespace DevEnv

set_option autoImplicit false

/-- A value that was read as one of some kind, and all that is wrong with it. -/
structure Misfit where
  kind : String
  value : Json
  issues : List Issue
deriving DecidableEq, Repr

namespace Misfit

/-- The part of a value that a way leads to. -/
def part? : Json → List PathStep → Option Json
  | v, [] => some v
  | v, .field name :: rest => (v.get? name).bind fun w => part? w rest
  | .list vs, .index i :: rest => (vs[i]?).bind fun w => part? w rest
  | _, .index _ :: _ => none

/-- How much of a value a report shows: so many bytes. -/
def maxShown : Nat := 50

/-- The characters of which every byte is among the first `n`. -/
def firstBytes (n : Nat) : List Char → List Char
  | [] => []
  | c :: cs => if c.utf8Size ≤ n then c :: firstBytes (n - c.utf8Size) cs else []

/-- A text that is too long without its middle. -/
def abridged (s : String) : String :=
  if s.utf8ByteSize ≤ maxShown then s
  else
    let front := firstBytes (maxShown / 2) s.toList
    let back := (firstBytes (maxShown / 2 - 1) s.toList.reverse).reverse
    String.ofList (front ++ ['.', '.', '.'] ++ back)

/-- A step on a way. -/
def stepText : PathStep → String
  | .field name => name
  | .index i => toString i

/-- The value that has an issue; of a missing field, the value that lacks it. -/
def culprit (m : Misfit) (issue : Issue) : Json :=
  let path := if issue.problem = .missing then issue.path.dropLast else issue.path
  (part? m.value path).getD .null

/-- The site on which every kind of problem has a page. -/
def site : String := "errors.pydantic.dev/2.14/v/"

/-- Where an issue is described at more length. -/
def reference (issue : Issue) : String := "https://" ++ site ++ issue.problem.kind

/-- The lines on one issue. The value itself has no line for the way to it. -/
def issueText (m : Misfit) (issue : Issue) : String :=
  let culprit := m.culprit issue
  (if issue.path.isEmpty then "" else ".".intercalate (issue.path.map stepText) ++ "\n") ++
    "  " ++ issue.problem.message ++ " [type=" ++ issue.problem.kind ++ ", input_value=" ++
    abridged culprit.literal ++ ", input_type=" ++ culprit.typeName ++
    "]\n    For further information visit " ++ reference issue

/-- The whole report. -/
def report (m : Misfit) : String :=
  let count := m.issues.length
  toString count ++ " validation error" ++ (if count = 1 then "" else "s") ++ " for " ++ m.kind ++
    "\n" ++ "\n".intercalate (m.issues.map m.issueText)

end Misfit

end DevEnv
