import DevEnv.Main
import DevEnv.Proofs.CommandLine.Configuring
import DevEnv.Proofs.Run

/-!
Runs of commands that change the configuration. Through files, command lines and messages they come
to the same as a fold of changes over the progress that is kept.
-/

namespace DevEnv.CommandLine

set_option autoImplicit false

-- Powers of core, whatever other instances are in scope.
attribute [local instance (2000)] instPowNat

open Workspace StateFile

variable {σ : Type}

/-- A command line, and what a run of it depends on. -/
structure Call where
  setting : Setting
  args : List String

/-- What a command line comes to. -/
inductive Verdict
  | unreadable (e : UsageError)
  | refused (issues : List Issue)
  | done
deriving DecidableEq, Repr

/-- What is seen of a command line so judged. -/
def Verdict.Shown (before : Workspace) (o : Outcome σ) : Verdict → Prop
  | .unreadable e => o.exit = 2 ∧ o.crash = none ∧ o.files = before ∧ o.err = lastLine e
  | .refused issues =>
    o.exit = 1 ∧ o.crash = none ∧ o.files = before ∧
      ∃ issue rest, issues = issue :: rest ∧
        o.err = printed (Text.withoutCodes ("Error: " ++ issue.problem.bareMessage ++ "\n"))
  | .done => o.exit = 0 ∧ o.crash = none ∧ o.err = ""

section Judging
variable {kept : Option Progress} {call : Call} {invocation : Invocation}

end Judging

section Programs
variable {client : Daemon.Client σ} {setting : Setting} {daemon : σ} {w : Workspace}
  {args : List String}

/-- The session in which a command line begins. -/
def Session.begin (daemon : σ) (w : Workspace) (args : List String) : Session σ :=
  ⟨daemon, w, false, args.flatMap String.toList, .none, "", "", [], []⟩

theorem runProgram_of_read {invocation : Invocation} {ending : Except Ending Unit} {t : Session σ}
    (h : Invocation.read ⟨namesDirectory w, setting.valueOf?⟩ args = .ok invocation)
    (hrun : (perform client setting invocation).run.run (.begin daemon w args) = (ending, t)) :
    runProgram client setting daemon w args = .ofSession ending t := by
  rw [runProgram, h]
  change Outcome.ofSession
    ((perform client setting invocation).run.run (.begin daemon w args)).1
    ((perform client setting invocation).run.run (.begin daemon w args)).2 = _
  rw [hrun]

end Programs

theorem Outcome.ofSession_ok (t : Session σ) : Outcome.ofSession (.ok ()) t =
    ⟨0, printed t.out, printed t.err, t.shown, none, t.daemon, t.files, t.log⟩ := by
  simp only [Outcome.ofSession, String.append_empty]

/-- What follows a run of a call by the program. -/
def Outcome.place (o : Outcome σ) : σ × Workspace := (o.daemon, o.files)

/-- Nothing is asked back, and no variable is set. -/
def Setting.plain : Setting := ⟨fun _ => none, false, "", 0⟩

end DevEnv.CommandLine
