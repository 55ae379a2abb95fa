import DevEnv.Catalog
import DevEnv.CommandLine.Arguments
import DevEnv.Container.Query
import DevEnv.Roster.Machine

/-!
The commands, and the command line of each one.
-/

namespace DevEnv.CommandLine

set_option autoImplicit false

/-- New settings for remote access; what is not given stays as it is. -/
structure SshChange where
  port : Option Int
  password : Option String
  publicKey : Option String
  disable : Bool
deriving DecidableEq, Repr

inductive Invocation
  | showConfig
  | setName (name : String)
  | setSystem (name version : String)
  | setLanguage (name version : String)
  | removeLanguage (name : String)
  | setSsh (change : SshChange)
  | resetConfig
  | generate (output : Option String)
  | build (tag : Option String)
  | run (name : Option String) (env : List String) (tag : Option String)
  | portCheck (port : Int)
  | list (state : StateFilter) (query : String)
  | details (id : String)
  | act (action : Roster.Action) (id : String)
  | remove (id : String) (yes : Bool)
  /-- Whether the interval is above zero, how often to refresh (zero for no end), and what to
  show. -/
  | watch (waits : Bool) (count : Int) (state : StateFilter)
  | help
deriving DecidableEq, Repr

/-- The words of a list in alphabetical order. -/
def sorted (words : List String) : List String := words.mergeSort fun a b => decide (a ≤ b)

def stateOption : OptionSpec :=
  .single ["--state"] (.choice (StateFilter.options.map StateFilter.name))

/-- The variable that sets the time between two polls. -/
def intervalVariable : String := "CONTAINER_HELPER_POLL_INTERVAL"

/-- The state filter that was asked for. -/
def stateOf (v : Values) : StateFilter :=
  ((v.last? "--state").bind StateFilter.ofName?).getD .all

/-- Whether there is any time between two polls. -/
def waitsOf (v : Values) : Bool :=
  (((v.last? "--interval").bind Text.real?).map Binary64.isPositive).getD true

/-- A command: what it takes, and what its values ask for. -/
structure Command where
  grammar : Grammar
  invocation : Values → Invocation

namespace Command

/-- A command with arguments only. -/
def plain (arguments : List ArgumentSpec) (invocation : Values → Invocation) : Command :=
  ⟨⟨[], arguments⟩, invocation⟩

/-- A command that acts on one container. -/
def onContainer (invocation : String → Invocation) : Command :=
  plain [.text "CONTAINER_ID"] fun v => invocation (v.argument 0)

def ssh : Command where
  grammar := ⟨[
    .single ["--port"] .integer, .single ["--password"] .text, .single ["--public-key"] .text,
    .switch ["--disable"]], []⟩
  invocation v := .setSsh ⟨(v.last? "--port").bind Text.integer?, v.last? "--password",
    v.last? "--public-key", v.has "--disable"⟩

def run : Command where
  grammar := ⟨[
    .single ["--name"] .text, ⟨["--env", "-e"], some .assignment, true, none⟩,
    .single ["--tag"] .text], []⟩
  invocation v := .run (v.last? "--name") (v.all "--env") (v.last? "--tag")

def watch : Command where
  grammar := ⟨[
    ⟨["--interval"], some .real, false, some intervalVariable⟩, .single ["--count"] .integer,
    stateOption], []⟩
  invocation v := .watch (waitsOf v) (((v.last? "--count").bind Text.integer?).getD 0) (stateOf v)

/-- The commands that manage the configuration. -/
def config : List (String × Command) := [
  ("show", plain [] fun _ => .showConfig),
  ("name", plain [.text "NAME"] fun v => .setName (v.argument 0)),
  ("os", plain [.choice (sorted (Catalog.systems.map (·.name))), .text "VERSION"] fun v =>
    .setSystem (v.argument 0) (v.argument 1)),
  ("language", plain [.choice (sorted (Catalog.languages.map (·.name))), .text "VERSION"] fun v =>
    .setLanguage (v.argument 0) (v.argument 1)),
  ("remove-language", plain [.text "LANGUAGE"] fun v => .removeLanguage (v.argument 0)),
  ("ssh", ssh),
  ("reset", plain [] fun _ => .resetConfig)]

/-- The commands that look after containers. -/
def containers : List (String × Command) := [
  ("list", ⟨⟨[stateOption, .single ["--search", "-s"] .text], []⟩, fun v =>
    .list (stateOf v) ((v.last? "--search").getD "")⟩),
  ("show", onContainer .details),
  ("start", onContainer (.act .start)),
  ("stop", onContainer (.act .stop)),
  ("rm", ⟨⟨[.switch ["--yes", "-y"]], [.text "CONTAINER_ID"]⟩, fun v =>
    .remove (v.argument 0) (v.has "--yes")⟩),
  ("watch", watch)]

/-- The commands outside the two groups. -/
def single : List (String × Command) := [
  ("generate", ⟨⟨[.single ["--output", "-o"] .outputFile], []⟩, fun v =>
    .generate (v.last? "--output")⟩),
  ("build", ⟨⟨[.single ["--tag"] .text], []⟩, fun v => .build (v.last? "--tag")⟩),
  ("run", run),
  ("port-check", plain [⟨"PORT", .range 1 65535⟩] fun v =>
    .portCheck ((Text.integer? (v.argument 0)).getD 0))]

def groups : List (String × List (String × Command)) :=
  [("config", config), ("containers", containers)]

/-- The invocation that a command's own words ask for. -/
def read (c : Command) (around : Surroundings) (args : List String) :
    Except UsageError Invocation :=
  (c.grammar.values around args).map fun v => if v.help then .help else c.invocation v

end Command

/-- The command that the words name, and the words after it; none where help is asked for. The
options of a group stand before the name of the command. A name that is none and looks like an
option is taken for one after all. -/
def pick {α : Type} (options : List OptionSpec) (commands : List (String × α))
    (args : List String) : Except UsageError (Option (α × List String)) := do
  let scan (args : List String) : Except UsageError (List String × Bool) :=
    ((Grammar.mk options []).scan false args).map fun given =>
      (given.rest, given.options.any fun o => o.1 == helpOption)
  let (rest, help) ← scan args
  if help then return none
  match rest with
  | [] => throw .commandMissing
  | name :: rest =>
    match commands.lookup name with
    | some c => return some (c, rest)
    | none =>
      if name.startsWith "-" && (← scan (name :: rest)).2 then return none
      throw (.noSuchCommand name (Text.suggestions name (commands.map (·.1))))

/-- What stands at the top: a command, or a group of them. -/
inductive Entry
  | command (c : Command)
  | group (commands : List (String × Command))

def entries : List (String × Entry) :=
  Command.groups.map (fun (name, commands) => (name, .group commands)) ++
    Command.single.map fun (name, c) => (name, .command c)

/-- The invocation of a command line. -/
def Invocation.read (around : Surroundings) (args : List String) :
    Except UsageError Invocation := do
  match ← pick [.switch ["--verbose", "-v"]] entries args with
  | none => return .help
  | some (.command c, rest) => c.read around rest
  | some (.group commands, rest) =>
    match ← pick [] commands rest with
    | none => return .help
    | some (c, rest) => c.read around rest

end DevEnv.CommandLine
