import DevEnv.Roster.Basic

/-!
Rosters with the engine calls that are under way and the polling loop. The loop makes a tick
whenever it wakes; a tick asks for a list unless some list is already under way. Closing stops the
loop and withdraws its ticks. Calls are numbered in order of issue and answered in any order.
-/

namespace DevEnv.Roster

set_option autoImplicit false

/-- What can be done to one container. -/
inductive Action
  | start
  | stop
  | remove
deriving DecidableEq, Repr

/-- A call to the engine. -/
inductive Call
  | list
  | details (id : String)
  | act (action : Action) (id : String)
deriving DecidableEq, Repr

/-- Why a list was asked for. -/
inductive Origin
  | refresh
  /-- A tick that a caller runs. -/
  | tick
  /-- A tick of the polling loop. -/
  | loop
  /-- The list that follows an action. -/
  | action
deriving DecidableEq, Repr

/-- How an answer is put to use. -/
inductive Purpose
  | list (origin : Origin) (token : Nat)
  | details
  | act
deriving DecidableEq, Repr

/-- A call that waits for its answer. The loop's own calls have no caller. -/
structure Waiting where
  number : Nat
  purpose : Purpose
  caller : Option Nat
deriving DecidableEq, Repr

structure Machine where
  roster : Roster
  waiting : List Waiting
  /-- How many calls have been issued. -/
  issued : Nat
  /-- Whether there is a polling loop. -/
  polling : Bool
  /-- Ticks that the loop has made and that have not begun. -/
  due : Nat
  /-- Calls that were cancelled and whose ticks have not yet noticed. -/
  cancelled : List Waiting
deriving DecidableEq, Repr

inductive Event
  | refresh (caller : Nat)
  | tick (caller : Nat)
  | inspect (caller : Nat) (id : String)
  | act (caller : Nat) (action : Action) (id : String)
  | startPolling
  /-- The loop begins, or its interval is over. -/
  | wake
  /-- A tick of the loop begins. -/
  | beginTick
  | close
  /-- The tick of a cancelled call notices. -/
  | notice (number : Nat)
  /-- The caller of a waiting call is cancelled. -/
  | abandon (number : Nat)
  | listed (number : Nat) (answer : Except Failure (List Container))
  | detailed (number : Nat) (answer : Except Failure Container)
  | acted (number : Nat) (answer : Except Failure Unit)

/-- What a caller gets back. -/
inductive Value
  | containers (cs : List Container)
  | container (c : Container)
  | done
  | cancelled
  | failed (f : Failure)
deriving DecidableEq, Repr

/-- All that one event brings about. -/
structure Reaction where
  machine : Machine
  called : Option (Nat × Call)
  returned : Option (Nat × Value)
  log : List LogEntry

namespace Machine

def initial : Machine := ⟨.initial, [], 0, false, 0, []⟩

def quiet (m : Machine) : Reaction := ⟨m, none, none, []⟩

/-- Hands a value to a caller, if there is one. -/
def give (m : Machine) (caller : Option Nat) (value : Value) (log : List LogEntry) : Reaction :=
  ⟨m, none, caller.map fun c => (c, value), log⟩

def issue (m : Machine) (purpose : Purpose) (caller : Option Nat) (call : Call) : Reaction where
  machine := { m with
    waiting := m.waiting ++ [⟨m.issued, purpose, caller⟩]
    issued := m.issued + 1 }
  called := some (m.issued, call)
  returned := none
  log := []

/-- Asks for a list. -/
def ask (m : Machine) (origin : Origin) (caller : Option Nat) : Reaction :=
  let r := m.roster.request
  { m with roster := r }.issue (.list origin r.token) caller .list

/-- A tick begins: it does nothing while a list is under way. -/
def beginTick (m : Machine) (origin : Origin) (caller : Option Nat) : Reaction :=
  if m.roster.inFlight = 0 then m.ask origin caller else m.give caller .done []

def without (m : Machine) (w : Waiting) : Machine :=
  { m with waiting := m.waiting.filter fun v => v.number != w.number }

/-- A call is given up; the answer to it will not matter. -/
def abandon (m : Machine) (w : Waiting) : Machine :=
  match w.purpose with
  | .list .. => { m.without w with roster := m.roster.withdraw }
  | _ => m.without w

/-- The calls of the loop's own ticks. -/
def ofLoop (w : Waiting) : Bool :=
  match w.purpose with
  | .list .loop _ => true
  | _ => false

def close (m : Machine) : Machine :=
  { m with
    polling := false
    due := 0
    waiting := m.waiting.filter fun w => !ofLoop w
    cancelled := m.cancelled ++ m.waiting.filter ofLoop }

/-- The caller of an ended list request goes on. A failure that the engine layer foresees is
handed on by a refresh alone; ticks and actions write it into the log. -/
def listEnded (m : Machine) (origin : Origin) (caller : Option Nat) :
    Except Failure (List Container) → Reaction
  | .ok _ =>
    m.give caller (if origin = .refresh then .containers m.roster.snapshot else .done) []
  | .error (.engine e) =>
    match origin with
    | .refresh => m.give caller (.failed (.engine e)) []
    | .tick | .loop => m.give caller .done [warning "fetch" e]
    | .action => m.give caller .done [warning "refresh" e]
  | .error f => m.give caller (.failed f) []

def react (m : Machine) : Event → Reaction
  | .refresh caller => m.ask .refresh (some caller)
  | .tick caller => m.beginTick .tick (some caller)
  | .inspect caller id => m.issue .details (some caller) (.details id)
  | .act caller action id => m.issue .act (some caller) (.act action id)
  | .startPolling => { m with polling := true }.quiet
  | .wake => if m.polling then { m with due := m.due + 1 }.quiet else m.quiet
  | .beginTick =>
    if m.due = 0 then m.quiet else { m with due := m.due - 1 }.beginTick .loop none
  | .close => m.close.quiet
  | .notice number =>
    match m.cancelled.find? fun w => w.number == number with
    | some _ =>
      { m with
        roster := m.roster.withdraw
        cancelled := m.cancelled.filter fun w => w.number != number }.quiet
    | none => m.quiet
  | .abandon number =>
    match m.waiting.find? fun w => w.number == number with
    | some w => (m.abandon w).give w.caller .cancelled []
    | none => m.quiet
  | .listed number answer =>
    match m.waiting.find? fun w => w.number == number with
    | some w =>
      match w.purpose with
      | .list origin token =>
        let m := { m.without w with roster := m.roster.receive token answer }
        m.listEnded origin w.caller answer
      | _ => m.quiet
    | none => m.quiet
  | .detailed number answer =>
    match m.waiting.find? fun w => w.number == number && w.purpose == .details with
    | some w =>
      (m.without w).give w.caller
        (match answer with
        | .ok c => .container c
        | .error f => .failed f) []
    | none => m.quiet
  | .acted number answer =>
    match m.waiting.find? fun w => w.number == number && w.purpose == .act with
    | some w =>
      match answer with
      | .ok () => (m.without w).ask .action w.caller
      | .error f => (m.without w).give w.caller (.failed f) []
    | none => m.quiet

/-- Whether a closing of the roster is over: no cancelled tick is left that has not noticed. -/
def isSettled (m : Machine) : Bool := m.cancelled.isEmpty

/-- The machine after a list of events. -/
def after (m : Machine) (events : List Event) : Machine :=
  events.foldl (fun m e => (m.react e).machine) m

end Machine

end DevEnv.Roster
