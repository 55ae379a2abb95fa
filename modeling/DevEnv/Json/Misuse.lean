import DevEnv.Json.Basic

/-!
How a value of one type fails where a value of another is needed.
-/

namespace DevEnv.Json

set_option autoImplicit false

inductive Misuse
  /-- A list or an object is looked up in a table. -/
  | noKey (type : String)
  /-- Something else is joined to a text. -/
  | noText (type : String)
  /-- Something is done to a value that only texts allow. -/
  | noOperation (operation type : String)
deriving DecidableEq, Repr

def Misuse.message : Misuse → String
  | noKey type => "unhashable type: '" ++ type ++ "'"
  | noText type => "can only concatenate str (not \"" ++ type ++ "\") to str"
  | noOperation operation type => "'" ++ type ++ "' object has no attribute '" ++ operation ++ "'"

/-- The text of a value that is joined to another text. -/
def joinedText : Json → Except Misuse String
  | .text s => .ok s
  | v => .error (.noText v.typeName)

/-- The text of a value to which an operation on texts is applied. -/
def textFor (operation : String) : Json → Except Misuse String
  | .text s => .ok s
  | v => .error (.noOperation operation v.typeName)

/-- The text of a value that is looked up; none for a key that is no text. -/
def lookedUp (v : Json) : Except Misuse (Option String) :=
  match v with
  | .text s => .ok (some s)
  | v => if v.isKey then .ok none else .error (.noKey v.typeName)

end DevEnv.Json
