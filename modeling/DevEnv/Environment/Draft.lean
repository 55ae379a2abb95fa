import DevEnv.Environment.Basic
import DevEnv.Json.Basic

/-!
Descriptions of environments that no rule has been applied to. Any value may stand where a name, a
version or a setting is expected.
-/

namespace DevEnv

set_option autoImplicit false

namespace Draft

/-- Something of the catalog, or something that is not in it, by name and version. -/
structure Choice where
  name : Json
  version : Json
deriving DecidableEq, Repr

structure Ssh where
  enabled : Bool
  port : Json
  password : Json
  publicKey : Json
deriving DecidableEq, Repr

end Draft

structure Draft where
  name : Json
  system : Draft.Choice
  languages : List Draft.Choice
  ssh : Option Draft.Ssh
deriving DecidableEq, Repr

def SshAccess.toDraft (a : SshAccess) : Draft.Ssh :=
  ⟨a.enabled, .integer a.port, .text a.password, .ofText? a.publicKey⟩

/-- An environment as a draft of itself. -/
def Environment.toDraft (e : Environment) : Draft where
  name := .ofText? e.name
  system := ⟨.text e.system.name, .text e.system.version⟩
  languages := e.languages.map fun l => ⟨.text l.name, .text l.version⟩
  ssh := e.ssh.map SshAccess.toDraft

namespace Draft

def sshEnabled (d : Draft) : Bool :=
  match d.ssh with
  | some a => a.enabled
  | none => false

/-- What a draft must have before a build file can be made of it. -/
inductive Gap
  | system
  | systemVersion
  | languages
deriving DecidableEq, Repr

def Gap.message : Gap → String
  | system => "OS type is required"
  | systemVersion => "OS version is required"
  | languages => "At least one language is required"

def gap? (d : Draft) : Option Gap :=
  if !d.system.name.isTruthy then some .system
  else if !d.system.version.isTruthy then some .systemVersion
  else if d.languages.isEmpty then some .languages
  else none

/-- The value of a field, or a default where it is absent. -/
def fieldOr (v : Json) (key : String) (default : Json) : Json := (v.get? key).getD default

def choiceOfJson (nameKey : String) (v : Json) : Choice :=
  ⟨fieldOr v nameKey .null, fieldOr v "version" .null⟩

/-- Access settings as they stand, with the usual ones where a field is absent. -/
def sshOfJson (v : Json) : Ssh where
  enabled := (fieldOr v "enabled" (.bool false)).isTruthy
  port := fieldOr v "port" (.integer Catalog.defaultSshPort)
  password := fieldOr v "password" (.text "")
  publicKey := fieldOr v "public_key" .null

def ofJson (v : Json) : Draft where
  name := fieldOr v "name" .null
  system := choiceOfJson "type" (fieldOr v "os" .null)
  languages := match v.get? "languages" with
    | some (.list items) => items.map (choiceOfJson "name")
    | _ => []
  ssh := match v.get? "ssh" with
    | some (.object fs) => some (sshOfJson (.object fs))
    | _ => none

end Draft

end DevEnv
