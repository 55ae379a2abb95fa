import DevEnv.Environment.Basic
import DevEnv.Json.Basic

/-!
Writing environments as JSON: the stored form, which holds every field in declaration order, and the
wire form, which names the system differently and leaves out absent remote access.
-/

namespace DevEnv

set_option autoImplicit false

def BaseSystem.toJson (s : BaseSystem) : Json :=
  .object [("type", .text s.name), ("version", .text s.version)]

def Language.toJson (l : Language) : Json :=
  .object [("name", .text l.name), ("version", .text l.version)]

def SshAccess.toJson (a : SshAccess) : Json :=
  .object [("enabled", .bool a.enabled), ("port", .integer a.port), ("password", .text a.password),
    ("public_key", .ofText? a.publicKey)]

/-- The stored form of optional access. -/
def SshAccess.optionToJson : Option SshAccess → Json
  | some a => a.toJson
  | none => .null

namespace Environment

def fields (e : Environment) : List (String × Json) := [
  ("name", .ofText? e.name),
  ("os", e.system.toJson),
  ("languages", .list (e.languages.map Language.toJson)),
  ("ssh", SshAccess.optionToJson e.ssh)]

def toJson (e : Environment) : Json := .object e.fields

def toWire (e : Environment) : Json :=
  .object <| [
    ("name", .ofText? e.name),
    ("os", .object [("os_type", .text e.system.name), ("version", .text e.system.version)]),
    ("languages", .list (e.languages.map Language.toJson))] ++
    match e.ssh with
    | some a => [("ssh", a.toJson)]
    | none => []

end Environment

def Progress.toJson (p : Progress) : Json :=
  .object [("current_step", .integer p.step), ("config", p.environment.toJson)]

end DevEnv
