import DevEnv.CommandLine.Building
import DevEnv.CommandLine.Configuring
import DevEnv.CommandLine.Inspecting
import DevEnv.CommandLine.Invocation
import DevEnv.Text.Lines

/-!
The program: it reads a command line, carries it out on a daemon and a working directory, and says
what was printed and how it ended.
-/

namespace DevEnv.CommandLine

set_option autoImplicit false

/-- What a run depends on besides the daemon and the files. -/
structure Setting where
  valueOf? : String → Option String
  /-- The answer to a question asked back. -/
  confirmed : Bool
  /-- What makes default container names different. -/
  suffix : String
  /-- How long an endless watch may take. -/
  patience : Nat

variable {σ : Type}

def perform (client : Daemon.Client σ) (setting : Setting) : Invocation → CommandM σ Unit
  | .showConfig => showConfig
  | .setName name => updateWith (.name (.text name)) ("Set environment name: " ++ name)
  | .setSystem name version =>
    updateWith (.system (.text name) (.text version)) ("Set OS to " ++ name ++ " " ++ version)
  | .setLanguage name version =>
    updateWith (.language (.text name) (.text version))
      ("Set " ++ name ++ " version to " ++ version)
  | .removeLanguage name => updateWith (.removeLanguage (.text name)) ("Removed " ++ name)
  | .setSsh change => setSsh change
  | .resetConfig => resetConfig
  | .generate output => generate output
  | .build tag => build client tag
  | .run name env tag => run client setting.suffix ⟨name, env⟩ tag
  | .portCheck port => portCheck client port
  | .list state query => list client state query
  | .details id => details client id
  | .act action id => act client action id
  | .remove id yes => remove client setting.confirmed id yes
  | .watch waits count state => watch client setting.patience waits count state
  | .help => return ()

/-- A finished run. -/
structure Outcome (σ : Type) where
  exit : Nat
  out : String
  err : String
  shown : List Shown
  /-- The failure that the command did not handle. -/
  crash : Option Failure
  daemon : σ
  files : Workspace
  log : List LogEntry

/-- What was printed, with all line breaks written the same way. -/
def printed (s : String) : String := String.ofList (Text.plainBreaks s.toList)

/-- The run of a command that has been read. -/
def Outcome.ofSession (ending : Except Ending Unit) (t : Session σ) : Outcome σ :=
  let ended (exit : Nat) (err : String) (crash : Option Failure) : Outcome σ :=
    ⟨exit, printed t.out, printed (t.err ++ err), t.shown, crash, t.daemon, t.files, t.log⟩
  match ending with
  | .ok () => ended 0 "" none
  | .error (.status code) => ended code "" none
  | .error (.crash f) => ended 1 "" (some f)
  | .error .interrupted => ended 1 "\nAborted!\n" none

/-- The last line of what is printed on a command line that cannot be read. -/
def lastLine (e : UsageError) : String :=
  (((printed (Text.withoutCodes e.text)).splitOn "\n").getLast?).getD ""

/-- Whether a path names a directory; the empty path names nothing. -/
def namesDirectory (w : Workspace) (path : String) : Bool :=
  path != "" && (w.resolve? path).any w.isDirectory

/-- Runs the program on a command line. A command line that cannot be read runs nothing. -/
def runProgram (client : Daemon.Client σ) (setting : Setting) (daemon : σ) (files : Workspace)
    (args : List String) : Outcome σ :=
  match Invocation.read ⟨namesDirectory files, setting.valueOf?⟩ args with
  | .error .nullInPath =>
    ⟨1, "", "", [], some (.unforeseen .nullInPath), daemon, files, []⟩
  | .error e => ⟨2, "", lastLine e, [], none, daemon, files, []⟩
  | .ok invocation =>
    let (ending, t) :=
      (perform client setting invocation).run
        ⟨daemon, files, false, args.flatMap String.toList, .none, "", "", [], []⟩
    .ofSession ending t

end DevEnv.CommandLine
