import DevEnv.PortProbe.Machine

/-!
Callers that wait until a probe checks nothing any more. Whoever waits looks again when the timer and
the queries that were there at the last look have come to an end, and goes if nothing is being checked.
-/

namespace DevEnv.PortProbe

set_option autoImplicit false

/-- A caller that waits, and what it waits for. -/
structure Waiter where
  caller : Nat
  timer : Option Nat
  queries : List Nat
deriving DecidableEq, Repr

/-- A probe and those who wait for it. -/
structure Attended where
  probe : Machine
  waiters : List Waiter
deriving DecidableEq, Repr

inductive Visit
  | probe (e : Event)
  | wait (caller : Nat)
  /-- A waiter looks again. -/
  | look (caller : Nat)

/-- All that one visit brings about. -/
structure Response where
  attended : Attended
  /-- What the probe does. -/
  reaction : Option Reaction
  /-- The caller that has waited long enough. -/
  returned : Option Nat

/-- Whether all that a waiter waits for has come to an end. -/
def Waiter.isFree (w : Waiter) (m : Machine) : Bool :=
  m.timers.all (fun t => w.timer != some t.number) &&
    m.queries.all (fun q => !w.queries.contains q.number)

namespace Attended

def initial : Attended := ⟨.initial, []⟩

def quiet (a : Attended) : Response := ⟨a, none, none⟩

/-- A caller looks: it goes, or it waits for what is there. -/
def look (a : Attended) (caller : Nat) : Response :=
  if a.probe.checking then
    let w : Waiter := ⟨caller, a.probe.held, a.probe.queries.map Numbered.number⟩
    { a with waiters := a.waiters ++ [w] }.quiet
  else ⟨a, none, some caller⟩

def react (a : Attended) : Visit → Response
  | .probe e =>
    let r := a.probe.react e
    ⟨{ a with probe := r.machine }, some r, none⟩
  | .wait caller => a.look caller
  | .look caller =>
    match a.waiters.find? fun w => w.caller == caller with
    | some w =>
      if w.isFree a.probe then { a with waiters := a.waiters.erase w }.look caller else a.quiet
    | none => a.quiet

end Attended

end DevEnv.PortProbe
