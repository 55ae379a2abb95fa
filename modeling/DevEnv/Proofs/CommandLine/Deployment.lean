import DevEnv.Proofs.CommandLine.Assignments
import DevEnv.Proofs.CommandLine.Calls
import DevEnv.Proofs.CommandLine.Refinement
import DevEnv.Proofs.Dockerfile.Secrets

/-!
How commands that generate, build and run come out. They succeed exactly if every step of their course
does, and else they print which step failed, and why.
-/

namespace DevEnv.CommandLine

set_option autoImplicit false

open Daemon

variable {σ α : Type}

/-- What is printed on the error channel in the end. -/
def Stop.printed : Stop → String
  | ⟨task, .failed f⟩ =>
    CommandLine.printed (Text.withoutCodes (headline task ++ ": " ++ f.describe ++ "\n"))
  | ⟨_, .interrupted⟩ => "\nAborted!\n"

/-- A finished run is as the course of its command is due to make it, with this text where the course
comes to a result. -/
structure Ended (o : Outcome σ) (way : Except Stop α × σ) (text : α → String) : Prop where
  daemon : o.daemon = way.2
  crash : o.crash = none
  exit_iff : o.exit = 0 ↔ ∃ a, way.1 = .ok a
  done : ∀ a, way.1 = .ok a → o.err = "" ∧ o.out = text a
  stopped : ∀ stop, way.1 = .error stop → o.exit = 1 ∧ o.err = stop.printed

theorem ofSession_stopped {stop : Stop} {u : Session σ} (said : u.err = stop.report) :
    let o := Outcome.ofSession (.error stop.ending) u
    o.daemon = u.daemon ∧ o.crash = none ∧ o.exit = 1 ∧ o.err = stop.printed := by
  obtain ⟨task, f | _⟩ := stop
  · refine ⟨rfl, rfl, rfl, ?_⟩
    simp only [Stop.ending, Outcome.ofSession, said, String.append_empty]
    rfl
  · refine ⟨rfl, rfl, rfl, ?_⟩
    simp only [Stop.ending, Outcome.ofSession, said, Stop.report, String.empty_append]
    rfl

theorem Follows.ended {way : Except Stop α × σ} {run : Except Ending Unit × Session σ}
    {Q : α → Unit → Session σ → Prop} {text : α → String} (h : Follows "" Q way run)
    (shows : ∀ a u, Q a () u → printed u.out = text a) :
    Ended (.ofSession run.1 run.2) way text := by
  have printed_empty : printed "" = "" := rfl
  cases h with
  | done daemon quiet holds =>
    refine ⟨daemon, rfl, ⟨fun _ => ⟨_, rfl⟩, fun _ => rfl⟩, fun a same => ?_, fun stop same => ?_⟩
    · obtain rfl := Except.ok.inj same
      refine ⟨?_, shows _ _ holds⟩
      simp only [Outcome.ofSession, quiet, String.append_empty, printed_empty]
    · cases same
  | @stopped stop _ u daemon said =>
    rw [String.empty_append] at said
    obtain ⟨same, crash, exit, err⟩ := ofSession_stopped said
    refine ⟨same.trans daemon, crash, ⟨fun zero => ?_, ?_⟩, fun a same => ?_, fun stop same => ?_⟩
    · rw [exit] at zero
      cases zero
    · rintro ⟨a, ⟨⟩⟩
    · cases same
    · obtain rfl := Except.error.inj same
      exact ⟨exit, err⟩

/-! ### Environments at hand -/

/-- What is found where a command line is carried out. -/
def foundAt (w : Workspace) (args : List String) : StateFile.Loaded :=
  w.stateFile.load (args.flatMap String.toList)

/-- The session of a command line once the environment is at hand. -/
def Session.equipped (daemon : σ) (w : Workspace) (args : List String) : Session σ :=
  { Session.begin daemon w args with
    standIns := (foundAt w args).standIns
    log := List.replicate (foundAt w args).warnings unreadableState }

theorem Session.out_equipped (daemon : σ) (w : Workspace) (args : List String) :
    (Session.equipped daemon w args).out = "" := rfl

theorem run_environment_of_found (daemon : σ) {w : Workspace} {args : List String}
    {kept : Option Progress} (h : (foundAt w args).progress? = .ok kept) :
    (environment : CommandM σ Environment).run.run (.begin daemon w args) =
      (.ok (StateFile.environmentOf kept), .equipped daemon w args) := by
  have found : (Session.begin daemon w args).files.stateFile.load (Session.begin daemon w args).spoken =
    foundAt w args := rfl
  have loaded := run_load (Session.begin daemon w args) found
  rw [h] at loaded
  rw [environment, run_bind_of_ok loaded]
  rfl

/-! ### Build files -/

section Programs
variable (client : Client σ) (setting : Setting) (daemon : σ) {w : Workspace} {args : List String}
  {kept : Option Progress}

variable {client setting daemon} in
theorem runProgram_of_run {invocation : Invocation} {r : Except Ending Unit × Session σ}
    (asked : Invocation.read ⟨namesDirectory w, setting.valueOf?⟩ args = .ok invocation)
    (runs : (perform client setting invocation).run.run (.begin daemon w args) = r) :
    runProgram client setting daemon w args = .ofSession r.1 r.2 :=
  runProgram_of_read asked runs

/-- What a run prints that comes to a container. -/
def runOutput (e : Environment) (tag : String) (result : BuildResult × String) : String :=
  printed (imageText tag result.1 ++ builtText tag ++ containerText result.2) ++ connectLine e

theorem head?_connectLine (e : Environment) : (connectLine e).toList.head? ≠ some '\n' := by
  unfold connectLine
  cases e.activeSsh? with
  | none => exact nofun
  | some a => simp

variable (found : (foundAt w args).progress? = .ok kept)
include found

theorem run_perform_run (name : Option String) (env : List String) (given : Option String) :
    (perform client setting (.run name env given)).run.run (.begin daemon w args) =
      (buildImage client (StateFile.environmentOf kept) given >>= continueRun client
        (StateFile.environmentOf kept) setting.suffix ⟨name, env⟩).run.run (.equipped daemon w args) :=
  run_bind_of_ok (run_environment_of_found daemon found)

theorem ended_run {name given : Option String} {env : List String}
    (asked : Invocation.read ⟨namesDirectory w, setting.valueOf?⟩ args =
      .ok (.run name env given)) :
    let e := StateFile.environmentOf kept
    let tag := tagOf e given
    Ended (runProgram client setting daemon w args)
      ((Course.container client (foundAt w args).standIns e tag
        (requestOf e setting.suffix tag ⟨name, env⟩)).run.run daemon)
      (runOutput e tag) := by
  intro e tag
  rw [runProgram_of_run asked (run_perform_run client setting daemon found name env given)]
  refine (follows_run client e setting.suffix ⟨name, env⟩ given
    (t := .equipped daemon w args) rfl).ended ?_
  intro result u out
  rw [out, Session.out_equipped, String.empty_append, runOutput,
    (plain_connectLine e).printed_append (head?_connectLine e)]

end Programs

/-! ### Generating, building and running -/

section Deploying
variable (client : Client σ) (setting : Setting) (daemon : σ) (w : Workspace) (args : List String)

/-- The command line goes this way, and makes the calls of its steps in order. -/
structure Goes (way : Except Stop α × σ) (text : α → String) (built started : List Daemon.Call) :
    Prop where
  ended : Ended (runProgram client setting daemon w args) way text
  called : ∃ calls,
    (runProgram client.logging setting (daemon, []) w args).daemon = (way.2, calls) ∧
      Orderly way.1 built started calls

variable {client setting daemon w args} {kept : Option Progress}
variable (found : (foundAt w args).progress? = .ok kept)
include found

end Deploying

/-- A working directory with this text in the state file. -/
def holding (text : String) : Workspace :=
  ⟨[(Workspace.dataDirectory, .directory), (Workspace.statePath, .file text.toUTF8)]⟩

theorem foundAt_holding (text : String) (args : List String) :
    foundAt (holding text) args = StateFile.loadText .usual (args.flatMap String.toList) text := by
  have directory : (holding text).find? Workspace.dataDirectory = some .directory :=
    Workspace.find?_of_inside Workspace.inside_dataDirectory
  have file : (holding text).find? Workspace.statePath = some (.file text.toUTF8) :=
    Workspace.find?_of_inside Workspace.inside_statePath
  rw [foundAt, Workspace.stateFile_of_find? directory file]
  exact StateFile.loadWithin_file text

theorem foundAt_textOf {p : Progress} (fits : p.Fits .usual) (args : List String) :
    foundAt (holding (StateFile.textOf p)) args = .progress p .none :=
  (foundAt_holding _ args).trans (StateFile.loadText_textOf _ fits)

/-- A language, and a remote login. -/
def pythonLogin : Environment where
  name := none
  system := ⟨"debian", "bullseye", by decide⟩
  languages := [⟨"python", "3.11", by decide⟩]
  ssh := some ⟨true, 2222, "secret", none, fun _ => by decide⟩
  distinct := List.nodup_singleton _

def pythonSaved : Workspace := holding (StateFile.textOf ⟨1, pythonLogin⟩)

theorem foundAt_pythonSaved (args : List String) :
    foundAt pythonSaved args = .progress ⟨1, pythonLogin⟩ .none := by
  refine foundAt_textOf ⟨by decide, fun a ha => ?_⟩ args
  obtain rfl := Option.some.inj ha
  decide

theorem found_pythonSaved (args : List String) :
    (foundAt pythonSaved args).progress? = .ok (some ⟨1, pythonLogin⟩) := by
  rw [foundAt_pythonSaved]
  rfl

theorem occurIn_none (s : String) : Text.StandIns.none.occurIn s = false := by
  simp [Text.StandIns.occurIn, Text.StandIns.half?, Text.StandIns.none]

/-- A daemon without a script lets everything succeed. -/
theorem container_scripted {e : Environment} (listed : e.languages ≠ []) (tag : String)
    (request : RunRequest) : ∃ result d,
    (Course.container Scripted.client .none e tag request).run.run ⟨[], []⟩ = (.ok result, d) ∧
      d.calls = buildCalls e tag ++ runCalls request := by
  have sends : Scripted.client.buildText .none e.compiled.text tag =
      Scripted.client.buildImage ⟨e.compiled.text, tag, false, true⟩ := by
    rw [Client.buildText, occurIn_none]
    rfl
  have imaged := run_image_of_some Scripted.client .none e tag listed ⟨[], []⟩
  rw [sends] at imaged
  exact ⟨_, _, run_bind_of_ok imaged, rfl⟩

theorem Ended.of_pythonSaved {o : Outcome Scripted} {args : List String} {tag : String}
    {request : RunRequest} {text : BuildResult × String → String}
    (h : Ended o ((Course.container Scripted.client (foundAt pythonSaved args).standIns pythonLogin
      tag request).run.run ⟨[], []⟩) text) :
    o.exit = 0 ∧ o.daemon.calls = buildCalls pythonLogin tag ++ runCalls request := by
  have whole : (foundAt pythonSaved args).standIns = .none := by
    rw [foundAt_pythonSaved]
    rfl
  have listed : pythonLogin.languages ≠ [] := List.cons_ne_nil _ _
  obtain ⟨result, d, way, calls⟩ := container_scripted listed tag request
  rw [whole, way] at h
  refine ⟨h.exit_iff.mpr ⟨result, rfl⟩, ?_⟩
  rw [h.daemon, calls]

section Refusing
variable {fault : Fault} {escape : Escape}
variable (explained : explainConnect fault = (.error escape : Except Escape Unit))
include explained

end Refusing

/-- The private character that stands for the half. -/
def half : Char := Char.ofNat 0xf0000

end DevEnv.CommandLine
