import DevEnv.Daemon.Client

/-!
A daemon that follows a script: every operation has a list of replies, of which the last one is
repeated, and the calls are recorded.
-/

namespace DevEnv.Daemon

set_option autoImplicit false

/-- The operations of a client. -/
inductive OperationName
  | connect
  | ping
  | build
  | run
  | list
  | get
  | start
  | stop
  | remove
deriving DecidableEq, Repr

/-- A reply: a fault, or else what the operation has a use for. -/
structure Reply where
  fault : Option Fault
  chunks : List Json
  id : String
  items : List Json
  attrs : Json

/-- The reply that says nothing in particular. -/
def Reply.plain : Reply := ⟨none, [], "c0ffee0123456789", [], .object []⟩

/-- A call that reached the daemon. -/
inductive Call
  | connect
  | ping
  | build (order : BuildOrder)
  | run (order : RunOrder)
  | list (all : Bool)
  | get (id : String)
  | start
  | stop
  | remove (force : Bool)
deriving DecidableEq, Repr

/-- The operation of a call. -/
def Call.operation : Call → OperationName
  | connect => .connect
  | ping => .ping
  | build _ => .build
  | run _ => .run
  | list _ => .list
  | get _ => .get
  | start => .start
  | stop => .stop
  | remove _ => .remove

/-- The replies to come for the operations that a script speaks of. -/
abbrev Script := List (OperationName × List Reply)

structure Scripted where
  script : Script
  calls : List Call

namespace Scripted

/-- Replaces the replies of the operations that a script speaks of. -/
def replace (d : Scripted) (script : Script) : Scripted :=
  { d with script := script ++ d.script.filter fun s => (script.lookup s.1).isNone }

/-- The next reply of an operation, and the replies after it; a last reply stays. -/
def next : List Reply → Reply × List Reply
  | [] => (.plain, [])
  | [reply] => (reply, [reply])
  | reply :: replies => (reply, replies)

/-- A call is recorded and replied to. -/
def respond {α : Type} (call : Call) (value : Reply → α) : Operation Scripted α := fun d =>
  let (reply, left) := next ((d.script.lookup call.operation).getD [])
  let d := { d.replace [(call.operation, left)] with calls := d.calls ++ [call] }
  match reply.fault with
  | some fault => (.error fault, d)
  | none => (.ok (value reply), d)

def client : Client Scripted where
  connect := respond .connect fun _ => ()
  ping := respond .ping fun _ => ()
  build order := respond (.build order) Reply.chunks
  run order := respond (.run order) Reply.id
  list all := respond (.list all) Reply.items
  get id := respond (.get id) Reply.attrs
  start := respond .start fun _ => ()
  stop := respond .stop fun _ => ()
  remove force := respond (.remove force) fun _ => ()

end Scripted

end DevEnv.Daemon
