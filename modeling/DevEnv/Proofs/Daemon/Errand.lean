import DevEnv.Daemon.Service

/-!
How the errands of a connected engine end, by what the client raises and answers. All faults but
interruptions come out as failures of the engine layer, lost connections as an engine out of reach.
Only details that describe no container leave the layer as they are.
-/

namespace DevEnv.Daemon

set_option autoImplicit false

/-- What an engine can be asked to do with its daemon. -/
inductive Errand
  | build (order : BuildOrder)
  /-- A build of a file that cannot be sent. -/
  | buildUnsendable (dockerfile : List Nat)
  | run (request : RunRequest)
  | list (all : Bool)
  | details (id : String)
  | start (id : String)
  | stop (id : String)
  | remove (id : String) (force : Bool)
  | portInUse (port : Int)
deriving DecidableEq, Repr

inductive Yield
  | built (result : BuildResult)
  | started (id : String)
  | containers (cs : List Container)
  | container (c : Container)
  | done
  | inUse (taken : Bool)
deriving DecidableEq, Repr

variable {σ α β : Type}

def Service.map (f : α → β) (a : Service σ α) : Service σ β :=
  a.andThen fun x s => (.ok (f x), s)

namespace Client

def perform (client : Client σ) : Errand → Service σ Yield
  | .build order => (client.buildImage order).map .built
  | .buildUnsendable dockerfile => (unsendable dockerfile).map .built
  | .run request => (client.runContainer request).map .started
  | .list all => (client.listContainers all).map .containers
  | .details id => (client.getContainer id).map .container
  | .start id => (client.startContainer id).map fun _ => .done
  | .stop id => (client.stopContainer id).map fun _ => .done
  | .remove id force => (client.removeContainer id force).map fun _ => .done
  | .portInUse port => (client.isPortInUse port).map .inUse

end Client

/-! ### What the client raises -/

def Errand.container? : Errand → Option String
  | details id | start id | stop id | remove id _ => some id
  | _ => none

/-- What an errand does to the container that it has looked up. -/
def Client.action? (client : Client σ) : Errand → Option (Operation σ Unit)
  | .start _ => some client.start
  | .stop _ => some client.stop
  | .remove _ force => some (client.remove force)
  | _ => none

/-- A call of the client that an errand makes raises a fault. -/
inductive Raises (client : Client σ) (s : σ) (fault : Fault) : Errand → Prop
  | build {order : BuildOrder} (raised : (client.build order s).1 = .error fault) :
    Raises client s fault (.build order)
  | run {request : RunRequest}
    (raised : (client.run (RunOrder.ofRequest request) s).1 = .error fault) :
    Raises client s fault (.run request)
  | list {all : Bool} (raised : (client.list all s).1 = .error fault) :
    Raises client s fault (.list all)
  | portInUse {port : Int} (raised : (client.list true s).1 = .error fault) :
    Raises client s fault (.portInUse port)
  | find {errand : Errand} {id : String} (looksUp : errand.container? = some id)
    (raised : (client.get id s).1 = .error fault) : Raises client s fault errand
  | act {errand : Errand} {id : String} {action : Operation σ Unit} {payload : Json} {t : σ}
    (looksUp : errand.container? = some id) (does : client.action? errand = some action)
    (found : client.get id s = (.ok payload, t)) (raised : (action t).1 = .error fault) :
    Raises client s fault errand

/-! ### How faults come out -/

/-- The ending that the engine layer makes of a fault. -/
inductive ComesOut : Fault → Escape → Prop
  | interrupted : ComesOut .interrupt .interrupted
  | lost (m : String) : ComesOut (.connection m) (.failed (.engine (lostConnection m)))
  | refused {fault : Fault} (e : EngineFailure) (stays : ∀ m, fault ≠ .connection m)
    (goes : fault ≠ .interrupt) : ComesOut fault (.failed (.engine e))

section Steps
variable {op : Operation σ α} {handle : Fault → Except Escape β} {use : α → Except Escape β}
  {a : Service σ α} {next : α → Service σ β} {s t : σ}

theorem service_of_raised {fault : Fault} (h : (op s).1 = .error fault) :
    (op.service handle use s).1 = handle fault := by
  simp only [Operation.service]
  split <;> simp_all

theorem service_of_answered {x : α} (h : op s = (.ok x, t)) :
    op.service handle use s = (use x, t) := by
  simp [Operation.service, h]

/-- An operation that fails as a service has raised a fault, or has come to a result of no use. -/
theorem raised_or_unused {e : Escape} (h : (op.service handle use s).1 = .error e) :
    (∃ fault, (op s).1 = .error fault ∧ handle fault = .error e) ∨
      ∃ x, (op s).1 = .ok x ∧ use x = .error e := by
  rcases ran : op s with ⟨fault | x, u⟩
  · have raised : (op s).1 = .error fault := by rw [ran]
    rw [service_of_raised raised] at h
    exact .inl ⟨fault, rfl, h⟩
  · rw [service_of_answered ran] at h
    exact .inr ⟨x, rfl, h⟩

theorem andThen_of_escaped {e : Escape} (h : (a s).1 = .error e) :
    (a.andThen next s).1 = .error e := by
  simp only [Service.andThen]
  split <;> simp_all

theorem andThen_of_done {x : α} (h : a s = (.ok x, t)) : a.andThen next s = next x t := by
  simp [Service.andThen, h]

theorem map_of_escaped {f : α → β} {e : Escape} (h : (a s).1 = .error e) :
    (a.map f s).1 = .error e :=
  andThen_of_escaped h

theorem map_of_done {f : α → β} {x : α} (h : (a s).1 = .ok x) : (a.map f s).1 = .ok (f x) := by
  simp only [Service.map, Service.andThen]
  split <;> simp_all

end Steps

/-! ### What becomes of an errand -/

variable {client : Client σ} {errand : Errand} {s : σ}

/-- A value, or a failure of the engine layer. -/
def Settles (r : Except Escape α) : Prop := (∃ a, r = .ok a) ∨ ∃ e, r = refuse e

theorem settles_ok (a : α) : Settles (.ok a) := .inl ⟨a, rfl⟩

theorem settles_refuse (e : EngineFailure) : Settles (refuse e : Except Escape α) := .inr ⟨e, rfl⟩

/-- How an errand may end, by what the client raises and answers. -/
inductive Ends (client : Client σ) (s : σ) (errand : Errand) : Except Escape α → Prop
  | raised {fault : Fault} {e : Escape} (raises : Raises client s fault errand)
    (out : ComesOut fault e) : Ends client s errand (.error e)
  | settled {r : Except Escape α} (settles : Settles r) : Ends client s errand r
  | undescribed {id : String} {payload : Json} {t : σ} {fault : PayloadFault}
    (asks : errand = .details id) (found : client.get id s = (.ok payload, t))
    (bad : Container.ofDetails payload = .error fault) :
    Ends client s errand (.error (.failed (.unforeseen (.payload fault))))

theorem Ends.map {a : Service σ α} (h : Ends client s errand (a s).1) (f : α → β) :
    Ends client s errand (a.map f s).1 := by
  generalize hr : (a s).1 = r at h
  cases h with
  | raised raises out =>
    rw [map_of_escaped hr]
    exact .raised raises out
  | settled settles =>
    rcases settles with ⟨x, rfl⟩ | ⟨e, rfl⟩
    · rw [map_of_done hr]
      exact .settled (settles_ok _)
    · rw [map_of_escaped hr]
      exact .settled (settles_refuse e)
  | undescribed asks found bad =>
    rw [map_of_escaped hr]
    exact .undescribed asks found bad

end DevEnv.Daemon
