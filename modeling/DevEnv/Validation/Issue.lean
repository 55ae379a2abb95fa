import DevEnv.Catalog

/-!
What can be wrong with a value that describes an environment or a container, where it is wrong, and
the wording of it.
-/

namespace DevEnv

set_option autoImplicit false

/-- A rule of the domain that readable values broke. -/
inductive Refusal
  | unknownSystem (name : String)
  | unknownSystemVersion (system : Catalog.System) (version : String)
  | unknownLanguage (name : String)
  | unknownLanguageVersion (language : Catalog.Language) (version : String)
  | sshPortOutOfRange
  | sshPasswordTooShort
  | repeatedLanguage (name : String)
deriving DecidableEq, Repr

namespace Refusal

/-- An unknown version of something known, with the versions that there are. -/
def versionMessage (name version : String) (versions : List String) : String :=
  "Unsupported " ++ name ++ " version '" ++ version ++ "' (supported: " ++
    ", ".intercalate versions ++ ")"

def message : Refusal → String
  | unknownSystem name => "Unsupported OS type '" ++ name ++ "'"
  | unknownSystemVersion system version => versionMessage system.name version system.versions
  | unknownLanguage name => "Unsupported language '" ++ name ++ "'"
  | unknownLanguageVersion language version =>
    versionMessage language.name version language.versions
  | sshPortOutOfRange =>
    "SSH port must be between " ++ toString Catalog.minSshPort ++ " and " ++
      toString Catalog.maxSshPort
  | sshPasswordTooShort =>
    "SSH password must be at least " ++ toString Catalog.minPasswordLength ++ " characters"
  | repeatedLanguage name => "Language '" ++ name ++ "' is listed more than once"

end Refusal

/-- One step of the way from a value to one of its parts. -/
inductive PathStep
  | field (name : String)
  | index (i : Nat)
deriving DecidableEq, Repr

inductive Problem
  | missing
  | notText
  | notInteger
  | fractional
  | notFinite
  | unreadableInteger
  /-- A number or numeral too large for a field of this type. -/
  | oversizedInteger
  | notFlag
  | unreadableFlag
  | notList
  /-- No object, where a value of the named kind should be. -/
  | notRecord (kind : String)
  | notState
  | refused (cause : Refusal)
deriving DecidableEq, Repr

namespace Problem

/-- The problem without the mark of a broken domain rule. -/
def bareMessage : Problem → String
  | missing => "Field required"
  | notText => "Input should be a valid string"
  | notInteger => "Input should be a valid integer"
  | fractional => "Input should be a valid integer, got a number with a fractional part"
  | notFinite => "Input should be a finite number"
  | unreadableInteger => "Input should be a valid integer, unable to parse string as an integer"
  | oversizedInteger => "Unable to parse input string as an integer, exceeded maximum size"
  | notFlag => "Input should be a valid boolean"
  | unreadableFlag => "Input should be a valid boolean, unable to interpret input"
  | notList => "Input should be a valid list"
  | notRecord kind => "Input should be a valid dictionary or instance of " ++ kind
  | notState => "Input should be 'running', 'exited', 'paused' or 'other'"
  | refused cause => cause.message

def message : Problem → String
  | refused cause => "Value error, " ++ cause.message
  | p => p.bareMessage

/-- The name of the kind of problem. -/
def kind : Problem → String
  | missing => "missing"
  | notText => "string_type"
  | notInteger => "int_type"
  | fractional => "int_from_float"
  | notFinite => "finite_number"
  | unreadableInteger => "int_parsing"
  | oversizedInteger => "int_parsing_size"
  | notFlag => "bool_type"
  | unreadableFlag => "bool_parsing"
  | notList => "list_type"
  | notRecord _ => "model_type"
  | notState => "enum"
  | refused _ => "value_error"

end Problem

/-- A problem and the way to the part that has it. -/
structure Issue where
  path : List PathStep
  problem : Problem
deriving DecidableEq, Repr

/-- The wording for a user: that of the first issue. -/
def Issue.summary : List Issue → String
  | [] => ""
  | issue :: _ => issue.problem.bareMessage

end DevEnv
