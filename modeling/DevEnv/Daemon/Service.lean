import DevEnv.Container.Query
import DevEnv.Daemon.Client
import DevEnv.Failure

/-!
The operations of a container engine on top of a daemon client. Faults of the client come out as
failures of the engine layer; what is not explained that way is part of the result.
-/

namespace DevEnv

set_option autoImplicit false

/-- What was built: the tag, and the output of the build. -/
structure BuildResult where
  tag : String
  logs : List Json
deriving DecidableEq, Repr

/-- A container to start. -/
structure RunRequest where
  imageTag : String
  containerName : String
  /-- Container ports by host port; a host port may be any value. -/
  portMap : List (Json × Int)
  env : List String
deriving DecidableEq, Repr

namespace Daemon

/-- How an engine operation ends without a result. -/
inductive Escape
  | failed (f : Failure)
  /-- The user ended the program. -/
  | interrupted
deriving DecidableEq, Repr

/-- An engine operation on a daemon with state `σ`. -/
abbrev Service (σ α : Type) := StateM σ (Except Escape α)

/-- A client operation as an engine operation: faults and results are both turned into outcomes. -/
def Operation.service {σ α β : Type} (op : Operation σ α) (onFault : Fault → Except Escape β)
    (onResult : α → Except Escape β) : Service σ β := fun s =>
  match op s with
  | (.error fault, s) => (onFault fault, s)
  | (.ok a, s) => (onResult a, s)

/-- Goes on with the result, if there is one. -/
def Service.andThen {σ α β : Type} (a : Service σ α) (next : α → Service σ β) : Service σ β :=
  fun s =>
    match a s with
    | (.error e, s) => (.error e, s)
    | (.ok a, s) => next a s

def refuse {α : Type} (e : EngineFailure) : Except Escape α := .error (.failed (.engine e))

def lostConnection (message : String) : EngineFailure :=
  .unreachable ("Lost connection to Docker: " ++ message)

/-- How most operations explain a fault: `failed` and `unexpected` begin the messages. -/
def explain {α : Type} (failed unexpected : String) : Fault → Except Escape α
  | .response r => refuse (.docker (failed ++ ": " ++ r.reading) r.status)
  | .connection m => refuse (lostConnection m)
  | .interrupt => .error .interrupted
  | fault => refuse (.docker (unexpected ++ ": " ++ fault.text) none)

/-- How operations on one container, which may not exist, explain a fault. -/
def explainFor {α : Type} (id failed unexpected : String) : Fault → Except Escape α
  | .response r =>
    if r.kind = .general then refuse (.docker (failed ++ ": " ++ r.reading) r.status)
    else refuse (.containerMissing ("Container '" ++ id ++ "' not found"))
  | fault => explain failed unexpected fault

/-! ### Connecting -/

/-- Texts of faults that mean that no daemon is running. -/
def meansNoDaemon (text : String) : Bool :=
  let lower := Text.lower text
  occursIn "connection refused" lower || occursIn "cannot connect" lower

/-- A library error on connecting. -/
def connectionRefusal (fault : Fault) : EngineFailure :=
  if meansNoDaemon fault.text then
    .unreachable
      "Docker daemon is not running. Please start Docker Desktop or the Docker service."
  else .docker ("Failed to connect to Docker: " ++ fault.text) none

/-- Faults on connecting: only those of the library are explained. -/
def explainConnect {α : Type} : Fault → Except Escape α
  | .connection m => .error (.failed (.unforeseen (.connection m)))
  | .runtime m => .error (.failed (.unforeseen (.runtime m)))
  | .interrupt => .error .interrupted
  | fault => refuse (connectionRefusal fault)

variable {σ : Type}

/-- Connects to the daemon and makes sure that it answers. -/
def Client.open (client : Client σ) : Service σ Unit :=
  (client.connect.service explainConnect .ok).andThen fun _ =>
    client.ping.service explainConnect .ok

/-! ### Images -/

/-- The output of a chunk, if it has any; it should be a text. -/
def streamOf? (chunk : Json) : Option Json := chunk.get? "stream"

/-- The output of the chunks, in order. -/
def outputOf (chunks : List Json) : List Json := chunks.filterMap streamOf?

/-- The output that is no text, if there is any. -/
def strayOutput? (chunks : List Json) : Option Json :=
  (outputOf chunks).find? fun v =>
    match v with
    | .text _ => false
    | _ => true

def buildUnexpected (message : String) : EngineFailure :=
  .buildFailed ("Unexpected error building image: " ++ message) [] none

def explainBuild {α : Type} : Fault → Except Escape α
  | .build m log => refuse (.buildFailed ("Build failed: " ++ m) (outputOf log) none)
  | .response r => refuse (.buildFailed ("Failed to build image: " ++ r.reading) [] r.status)
  | .connection m => refuse (lostConnection m)
  | .interrupt => .error .interrupted
  | fault => refuse (buildUnexpected fault.text)

/-- The result of a build with this output. -/
def resultOfChunks (tag : String) (chunks : List Json) : Except Escape BuildResult :=
  match strayOutput? chunks with
  | some v =>
    refuse (buildUnexpected (Json.Misuse.message (.noOperation "rstrip" v.typeName)))
  | none => .ok ⟨tag, outputOf chunks⟩

def Client.buildImage (client : Client σ) (order : BuildOrder) : Service σ BuildResult :=
  (client.build order).service explainBuild (resultOfChunks order.tag)

/-- A build of which the file, given by its code points, cannot be sent, as it is broken. -/
def unsendable (dockerfile : List Nat) : Service σ BuildResult := fun s =>
  (refuse (buildUnexpected (Text.encodingComplaint dockerfile)), s)

/-- Builds from a text, unless that holds halves of characters. -/
def Client.buildText (client : Client σ) (standIns : Text.StandIns) (text tag : String) :
    Service σ BuildResult :=
  if standIns.occurIn text then unsendable (standIns.points text)
  else client.buildImage ⟨text, tag, false, true⟩

/-! ### Containers -/

/-- Binds a key: a new one goes to the end, a known one keeps its place. -/
def assign {κ ν : Type} [BEq κ] (key : κ) (value : ν) : List (κ × ν) → List (κ × ν)
  | [] => [(key, value)]
  | (k, v) :: rest => if k == key then (k, value) :: rest else (k, v) :: assign key value rest

/-- The map of pairs of which the later one wins. -/
def ofPairs {κ ν : Type} [BEq κ] (pairs : List (κ × ν)) : List (κ × ν) :=
  pairs.foldl (fun map p => assign p.1 p.2 map) []

/-- Host ports by the name of the container port. -/
def bindings (portMap : List (Json × Int)) : List (String × Json) :=
  ofPairs (portMap.map fun p => (toString p.2 ++ "/tcp", p.1))

def RunOrder.ofRequest (request : RunRequest) : RunOrder where
  image := request.imageTag
  name := request.containerName
  ports := if request.portMap.isEmpty then none else some (bindings request.portMap)
  env := if request.env.isEmpty then none else some request.env

def explainRun {α : Type} (image : String) : Fault → Except Escape α
  | .response r =>
    if r.kind = .imageNotFound then refuse (.imageMissing ("Image '" ++ image ++ "' not found"))
    else refuse (.docker ("Failed to run container: " ++ r.reading) r.status)
  | fault => explain "Failed to run container" "Unexpected error running container" fault

def Client.runContainer (client : Client σ) (request : RunRequest) : Service σ String :=
  (client.run (RunOrder.ofRequest request)).service (explainRun request.imageTag) .ok

/-- The containers of a list of payloads, all of which must describe one. -/
def containersOf (payloads : List Json) : Except Escape (List Container) :=
  match payloads.mapM Container.ofSummary with
  | .ok cs => .ok cs
  | .error fault =>
    refuse (.docker ("Unexpected error listing containers: " ++ fault.message) none)

def Client.listContainers (client : Client σ) (all : Bool) : Service σ (List Container) :=
  (client.list all).service
    (explain "Failed to list containers" "Unexpected error listing containers") containersOf

/-- Looks a container up. -/
def Client.find (client : Client σ) (id : String) : Service σ Json :=
  (client.get id).service
    (explainFor id "Failed to get container" "Unexpected error getting container") .ok

/-- The container of a payload with details. A payload that describes none is not foreseen. -/
def containerOf (payload : Json) : Except Escape Container :=
  (Container.ofDetails payload).mapError fun fault => .failed (.unforeseen (.payload fault))

def Client.getContainer (client : Client σ) (id : String) : Service σ Container :=
  (client.find id).andThen fun payload s => (containerOf payload, s)

/-- Looks a container up and acts on it. -/
def Client.actOn (client : Client σ) (id verb : String) (act : Operation σ Unit) :
    Service σ Unit :=
  (client.find id).andThen fun _ =>
    act.service
      (explainFor id ("Failed to " ++ verb ++ " container")
        ("Unexpected error trying to " ++ verb ++ " container")) .ok

def Client.startContainer (client : Client σ) (id : String) : Service σ Unit :=
  client.actOn id "start" client.start

def Client.stopContainer (client : Client σ) (id : String) : Service σ Unit :=
  client.actOn id "stop" client.stop

def Client.removeContainer (client : Client σ) (id : String) (force : Bool) : Service σ Unit :=
  client.actOn id "remove" (client.remove force)

/-- Whether a container publishes a host port. -/
def publishes (port : Int) (c : Container) : Bool :=
  c.ports.any fun p => p.publicPort == some port

/-- Whether a running container publishes a host port. -/
def Client.isPortInUse (client : Client σ) (port : Int) : Service σ Bool :=
  (client.listContainers true).andThen fun cs s =>
    (.ok (cs.any fun c => c.isRunning && publishes port c), s)

end Daemon

end DevEnv
