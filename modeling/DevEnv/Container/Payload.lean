import DevEnv.Container.Basic
import DevEnv.Text.Integer
import DevEnv.Time.Timestamp
import DevEnv.Validation.Report

/-!
Containers out of an engine's own payloads: the entries of its list, and the details of one
container. Payloads are not trusted, so every way in which one can fail to have the expected shape
is an outcome of its own.
-/

namespace DevEnv

set_option autoImplicit false

/-- How a payload fails to describe a container. -/
inductive PayloadFault
  /-- A value of one type stands where the payload uses it as another. -/
  | wrongUse (operation type : String)
  /-- Something that is no list stands where items are expected. -/
  | notIterable (type : String)
  | notIndexable (type : String)
  /-- An object is asked for its first item. -/
  | noFirstItem
  | notNumber (type : String)
  | notPattern
  | unreadableInteger
  /-- An infinite number stands where an integer is expected. -/
  | infinite
  | invalid (misfit : Misfit)
deriving DecidableEq, Repr

namespace Payload

abbrev Result (α : Type) := Except PayloadFault α

def misused {α : Type} (v : Json) (operation : String) : Result α :=
  .error (.wrongUse operation v.typeName)

/-- A key of a value that has to be an object. -/
def get (v : Json) (key : String) : Result (Option Json) :=
  match v with
  | .object fs => .ok (fs.lookup key)
  | _ => misused v "get"

/-- A key of an object, or a default where the key is absent. -/
def getOr (v : Json) (key : String) (default : Json) : Result Json :=
  (get v key).map fun found => found.getD default

/-- The value of a key if it has any content, or a default. -/
def getFilled (v : Json) (key : String) (default : Json) : Result Json :=
  (get v key).map fun found =>
    match found with
    | some w => if w.isTruthy then w else default
    | none => default

/-- The items of a list. A text and an object have items too: its characters, and its keys. -/
def items (v : Json) : Result (List Json) :=
  match v with
  | .list vs => .ok vs
  | .text s => .ok (s.toList.map fun c => .text (String.singleton c))
  | .object fs => .ok (fs.map fun f => .text f.1)
  | _ => .error (.notIterable v.typeName)

def text (v : Json) (operation : String) : Result String :=
  match v with
  | .text s => .ok s
  | _ => misused v operation

/-- A name without the slashes in front. -/
def withoutSlashes (s : String) : String :=
  String.ofList (s.toList.dropWhile (· == '/'))

/-- The value of some kind that the fields of a payload make up. -/
def valid {α : Type} (kind : String) (read : Json → Checked α) (fields : List (String × Json)) :
    Result α :=
  (read (.object fields)).mapError fun issues => .invalid ⟨kind, .object fields, issues⟩

/-- The state that a payload's word means; a missing word means another state. -/
def stateOf (v : Json) : Result RunState :=
  if v.isTruthy then (text v "lower").map RunState.ofWord else .ok .other

end Payload

namespace Container

open Payload

/-! ### List entries -/

/-- The first of several names, or the first character of a single one. -/
def firstName (v : Json) : Result String :=
  if v.isTruthy then
    match v with
    | .list (first :: _) => (text first "lstrip").map withoutSlashes
    | .text s => .ok (withoutSlashes (String.ofList (s.toList.take 1)))
    | .object _ => .error .noFirstItem
    | _ => .error (.notIndexable v.typeName)
  else .ok ""

def summaryPort (v : Json) : Result PortMapping := do
  let privatePort ← getOr v "PrivatePort" (.integer 0)
  let publicPort ← getOr v "PublicPort" .null
  let protocol ← getFilled v "Type" (.text "tcp")
  valid "PortMapping" PortMapping.read
    [("private_port", privatePort), ("public_port", publicPort), ("protocol", protocol)]

/-- The container of one entry of the engine's list. -/
def ofSummary (v : Json) : Result Container := do
  let name ← firstName (← getOr v "Names" .null)
  let ports ← (← items (← getFilled v "Ports" (.list []))).mapM summaryPort
  let id ← getOr v "Id" (.text "")
  let image ← getOr v "Image" (.text "")
  let state ← stateOf (← getOr v "State" .null)
  let status ← getOr v "Status" (.text "")
  let created ← getFilled v "Created" (.integer 0)
  valid "ContainerRecord" Container.read
    [("id", id), ("name", .text name), ("image", image), ("state", .text state.name),
      ("status", status), ("created", created), ("ports", .list (ports.map PortMapping.toJson))]

/-! ### Details of one container -/

/-- The key of a port, cut at its first slash. -/
def splitPortKey (key : String) : String × String :=
  let (front, back) := key.toList.span (· != '/')
  (String.ofList front, String.ofList back.tail)

/-- The host port of a binding, none if it has no content. -/
def hostPort (v : Json) : Result (Option Int) :=
  if v.isTruthy then
    match v with
    | .text s =>
      match Text.integer? s with
      | some n => .ok (some n)
      | none => .error .unreadableInteger
    | .integer n => .ok (some n)
    | .bool b => .ok (some (if b then 1 else 0))
    | .real (.infinite _) => .error .infinite
    | .real x =>
      match x.truncate? with
      | some n => .ok (some n)
      | none => .error .unreadableInteger
    | _ => .error (.notNumber v.typeName)
  else .ok none

/-- One binding of a port. -/
def binding (key : String) (v : Json) : Result PortMapping := do
  let (privateText, protocol) := splitPortKey key
  let host ← getOr v "HostPort" .null
  match Text.integer? privateText with
  | none => .error .unreadableInteger
  | some privatePort =>
    return ⟨privatePort, ← hostPort host, if protocol.isEmpty then "tcp" else protocol⟩

/-- The bindings of one port; a port without any is not looked at. -/
def portBindings (port : String × Json) : Result (List PortMapping) :=
  if port.2.isTruthy then do (← items port.2).mapM (binding port.1) else .ok []

/-- All bindings, in the order of the payload. -/
def publishedPorts (network : Json) : Result (List PortMapping) := do
  match ← getFilled network "Ports" (.object []) with
  | .object ports => return (← ports.mapM portBindings).flatten
  | v => misused v "items"

def detailMount (v : Json) : Result Mount := do
  let source ← getOr v "Source" (.text "")
  let destination ← getOr v "Destination" (.text "")
  let mode ← getOr v "Mode" (.text "")
  valid "MountInfo" Mount.read
    [("source", source), ("destination", destination), ("mode", mode)]

/-- The moment of creation in seconds; a value without content is an unknown moment. -/
def createdAt (v : Json) : Result Int :=
  if v.isTruthy then
    match v with
    | .text s => .ok (Timestamp.epoch s)
    | _ => .error .notPattern
  else .ok 0

/-- The container of the details that the engine gives of it. -/
def ofDetails (v : Json) : Result Container := do
  let config ← getFilled v "Config" (.object [])
  let status ← getFilled (← getFilled v "State" (.object [])) "Status" (.text "unknown")
  let ports ← publishedPorts (← getFilled v "NetworkSettings" (.object []))
  let mounts ← (← items (← getFilled v "Mounts" (.list []))).mapM detailMount
  let id ← getOr v "Id" (.text "")
  let name ← text (← getFilled v "Name" (.text "")) "lstrip"
  let image ← getOr config "Image" (.text "")
  let state ← stateOf status
  let created ← createdAt (← getOr v "Created" .null)
  let env ← getFilled config "Env" (.list [])
  valid "ContainerRecord" Container.read
    [("id", id), ("name", .text (withoutSlashes name)), ("image", image),
      ("state", .text state.name), ("status", status), ("created", .integer created),
      ("ports", .list (ports.map PortMapping.toJson)), ("env", env),
      ("mounts", .list (mounts.map Mount.toJson))]

end Container

end DevEnv
