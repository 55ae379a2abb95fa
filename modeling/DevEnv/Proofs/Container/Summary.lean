import DevEnv.Proofs.Container.Ports
import DevEnv.Proofs.Text.Lower

/-!
What a list entry says of its container: whether it runs, and at which host ports it can be reached. The
word for running may be written in capital and small letters, and a port in any form of a number.
-/

namespace DevEnv.Container

set_option autoImplicit false

open Outcome Reader Payload

variable {v entry : Json} {c : Container} {port : Int}

/-! ### The state -/

/-- The state of the entry is the word for running, in whatever letters. -/
def SaysRunning (v : Json) : Prop :=
  ∃ word, v.get? "State" = some (.text word) ∧ word.toList.map Char.toLower = "running".toList

/-- What an entry lists as ports. -/
def portEntries (v : Json) : List Json :=
  match v.get? "Ports" with
  | some (.list entries) => entries
  | _ => []

/-- A port of the entry has this host port. -/
def SaysPublished (port : Int) (v : Json) : Prop :=
  ∃ entry ∈ portEntries v, ∃ host, entry.get? "PublicPort" = some host ∧ Counts host port

end DevEnv.Container
