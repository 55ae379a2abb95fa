import DevEnv.Proofs.CommandLine.Login
import DevEnv.Proofs.Container.Summary
import DevEnv.Proofs.PortProbe.Waiting

/-!
The check of a host port, from the command line to the daemon and back. A port is in use exactly if the
daemon answers, all that it lists can be read, and an entry that runs has the port. Whatever goes wrong on
the way, the port counts as available; only the user can end the check.
-/

namespace DevEnv

set_option autoImplicit false

open Outcome

variable {σ : Type} {client : Daemon.Client σ} {s : σ} {port : Int}

namespace Daemon

/-! ### The daemon -/

/-- All entries of a list can be read. -/
def Readable (payloads : List Json) : Prop := ∀ v ∈ payloads, ∃ c, Container.ofSummary v = .ok c

/-- An entry of a list runs and has this port. -/
def Shows (port : Int) (payloads : List Json) : Prop :=
  ∃ v ∈ payloads, Container.SaysRunning v ∧ Container.SaysPublished port v

end Daemon

namespace CommandLine

open Daemon

/-! ### The command -/

/-- The probe while it waits for the answer about one port. -/
def waiting (port : Int) : PortProbe.Machine :=
  ⟨some port, none, none, none, [], [⟨0, port⟩], 1, 1, 0⟩

section Runs
variable (client : Client σ) (port : Int) (t : Session σ)

end Runs

/-! ### The program -/

section Programs
variable {setting : Setting} {daemon : σ} {w : Workspace} {args : List String}
variable (asked : Invocation.read ⟨namesDirectory w, setting.valueOf?⟩ args = .ok (.portCheck port))
include asked

end Programs

/-! ### The command line -/

/-- A daemon with a container that runs at a port, both written in another way. -/
def busy : Scripted :=
  ⟨[(.list, [{ Reply.plain with items := [.object [("Id", .text "c0ffee"), ("State", .text "RUNNING"),
    ("Ports", .list [.object [("PublicPort", .text "8080")]])]] }])], []⟩

end CommandLine

end DevEnv
