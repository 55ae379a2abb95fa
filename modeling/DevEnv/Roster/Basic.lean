import DevEnv.Failure

/-!
The list of containers as it was last heard of. Every request for a fresh list takes a token; the
answer of an older request never replaces that of a newer one.
-/

namespace DevEnv

set_option autoImplicit false

structure Roster where
  snapshot : List Container
  /-- What went wrong with the latest list that was heard of. -/
  lastError : Option String
  /-- Requests for a list that have not ended. -/
  inFlight : Nat
  /-- The token of the latest request. -/
  token : Nat
deriving DecidableEq, Repr

namespace Roster

def initial : Roster := ⟨[], none, 0, 0⟩

/-- A request leaves; its token is that of the roster afterwards. -/
def request (r : Roster) : Roster := { r with token := r.token + 1, inFlight := r.inFlight + 1 }

/-- A request ends without an answer. -/
def withdraw (r : Roster) : Roster := { r with inFlight := r.inFlight - 1 }

/-- A request ends with its answer. -/
def receive (r : Roster) (token : Nat) (answer : Except Failure (List Container)) : Roster :=
  let r := r.withdraw
  if token ≠ r.token then r
  else match answer with
    | .ok cs => { r with snapshot := cs, lastError := none }
    | .error (.engine e) => { r with lastError := some (Failure.engine e).describe }
    | .error (.unforeseen _) => r

/-- What the log says of a failed list. -/
def warning (verb : String) (e : EngineFailure) : LogEntry :=
  ⟨.warning, "Failed to " ++ verb ++ " containers: " ++ e.message⟩

end Roster

end DevEnv
