import DevEnv.Json.Misuse
import DevEnv.Text.Lower

/-!
Names of images and containers made from the name of an environment.
-/

namespace DevEnv.ImageName

set_option autoImplicit false

/-- Characters that a name token keeps. -/
def isKept (c : Char) : Bool :=
  ('a' ≤ c && c ≤ 'z') || c.isDigit || c == '_' || c == '.' || c == '-'

/-- The list with every run of hyphens shortened to one. -/
def squeeze : List Char → List Char
  | '-' :: '-' :: rest => squeeze ('-' :: rest)
  | c :: rest => c :: squeeze rest
  | [] => []

/-- The list without hyphens at its ends; after squeezing there is at most one at each. -/
def trimHyphens (cs : List Char) : List Char :=
  ((cs.dropWhile (· == '-')).reverse.dropWhile (· == '-')).reverse

def fallback : String := "dev-environment"

/-- A name in lower case with a hyphen for every run of other characters; names in which nothing
is usable share one token. -/
def token (name : Option String) : String :=
  let cs := (Text.lower (name.getD "")).toList.map fun c => if isKept c then c else '-'
  let kept := trimHyphens (squeeze cs)
  if kept.isEmpty then fallback else String.ofList kept

def tag (name : Option String) : String := token name ++ ":latest"

/-- The container name of an environment; the suffix tells its containers apart. -/
def container (name : Option String) (suffix : String) : String := token name ++ "-" ++ suffix

/-- The name that a value stands for; a value without content is no name. -/
def ofValue (v : Json) : Except Json.Misuse (Option String) :=
  if v.isTruthy then (v.textFor "lower").map some else .ok none

end DevEnv.ImageName
