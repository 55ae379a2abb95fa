import DevEnv.Environment.Reader
import DevEnv.Environment.Writer

/-!
Edits of an environment. An edit replaces a field of the stored form and reads the result again, so
that an edited environment obeys every rule a fresh one does.
-/

namespace DevEnv

set_option autoImplicit false

/-- An edit and what it is made with, which no rule has been applied to. -/
inductive Edit
  | name (name : Json)
  | system (name version : Json)
  /-- Puts the language at the end, in place of an earlier entry for it. -/
  | language (name version : Json)
  | removeLanguage (name : Json)
  | ssh (access : Option SshAccess)
deriving DecidableEq, Repr

namespace Environment

/-- The stored form of all languages but one. -/
def otherLanguages (e : Environment) (name : Json) : List Json :=
  (e.languages.filter fun l => .text l.name != name).map Language.toJson

/-- The field that an edit replaces and what it puts there. -/
def replacement (e : Environment) : Edit → String × Json
  | .name name => ("name", name)
  | .system name version => ("os", .object [("type", name), ("version", version)])
  | .language name version =>
    ("languages", .list (e.otherLanguages name ++ [.object [("name", name), ("version", version)]]))
  | .removeLanguage name => ("languages", .list (e.otherLanguages name))
  | .ssh access => ("ssh", SshAccess.optionToJson access)

def apply (e : Environment) (edit : Edit) : Checked Environment :=
  let (field, value) := e.replacement edit
  read (.object (Json.bind field value e.fields))

end Environment

end DevEnv
