import DevEnv.Json.Basic
import DevEnv.Text.Lower
import DevEnv.Validation.Reader

/-!
Containers as an engine reports them at one moment, and their stored form.
-/

namespace DevEnv

set_option autoImplicit false

inductive RunState
  | running
  | exited
  | paused
  | other
deriving DecidableEq, Repr

namespace RunState

def name : RunState → String
  | running => "running"
  | exited => "exited"
  | paused => "paused"
  | other => "other"

def all : List RunState := [running, exited, paused, other]

/-- The state with exactly this name. -/
def ofName? (s : String) : Option RunState := all.find? fun state => state.name == s

/-- The state that an engine's word means, in whatever case; unknown words mean other states. -/
def ofWord (s : String) : RunState := (ofName? (Text.lower s)).getD other

end RunState

/-- A port of a container, with the host port that leads to it if it is published. -/
structure PortMapping where
  privatePort : Int
  publicPort : Option Int
  protocol : String
deriving DecidableEq, Repr

structure Mount where
  source : String
  destination : String
  mode : String
deriving DecidableEq, Repr

structure Container where
  id : String
  name : String
  image : String
  state : RunState
  status : String
  created : Int
  ports : List PortMapping
  env : List String
  mounts : List Mount
deriving DecidableEq, Repr

def Container.isRunning (c : Container) : Bool := c.state == .running

/-! ### The stored form -/

open Reader

def PortMapping.read : Json → Checked PortMapping :=
  record "PortMapping" fun fs => do
    let (privatePort, publicPort, protocol) ←
      (required "private_port" integer fs).both <|
      (defaulted "public_port" none (nullable integer) fs).both <|
      defaulted "protocol" "tcp" text fs
    return ⟨privatePort, publicPort, protocol⟩

def PortMapping.toJson (p : PortMapping) : Json :=
  .object [("private_port", .integer p.privatePort), ("public_port", .ofInteger? p.publicPort),
    ("protocol", .text p.protocol)]

def Mount.read : Json → Checked Mount :=
  record "MountInfo" fun fs => do
    let (source, destination, mode) ←
      (defaulted "source" "" text fs).both <|
      (defaulted "destination" "" text fs).both <|
      defaulted "mode" "" text fs
    return ⟨source, destination, mode⟩

def Mount.toJson (m : Mount) : Json :=
  .object [("source", .text m.source), ("destination", .text m.destination), ("mode", .text m.mode)]

def RunState.read : Json → Checked RunState
  | .text s =>
    match RunState.ofName? s with
    | some state => .ok state
    | none => fail .notState
  | _ => fail .notState

namespace Container

def read : Json → Checked Container :=
  record "ContainerRecord" fun fs => do
    let (id, name, image, state, status, created, ports, env, mounts) ←
      (required "id" text fs).both <|
      (required "name" text fs).both <|
      (required "image" text fs).both <|
      (defaulted "state" .other RunState.read fs).both <|
      (defaulted "status" "" text fs).both <|
      (defaulted "created" 0 integer fs).both <|
      (defaulted "ports" [] (listOf PortMapping.read) fs).both <|
      (defaulted "env" [] (listOf text) fs).both <|
      defaulted "mounts" [] (listOf Mount.read) fs
    return ⟨id, name, image, state, status, created, ports, env, mounts⟩

def toJson (c : Container) : Json :=
  .object [("id", .text c.id), ("name", .text c.name), ("image", .text c.image),
    ("state", .text c.state.name), ("status", .text c.status), ("created", .integer c.created),
    ("ports", .list (c.ports.map PortMapping.toJson)), ("env", .ofTexts c.env),
    ("mounts", .list (c.mounts.map Mount.toJson))]

end Container

end DevEnv
