import DevEnv.Binary64
import DevEnv.Text.Quoted
import DevEnv.Text.Real
import DevEnv.Text.Similarity

/-!
The grammar of command lines: options with and without values, in long and short spellings, and
positional arguments. Parameters are checked in the order in which they were given.
-/

namespace DevEnv.CommandLine

set_option autoImplicit false

inductive UsageError
  /-- With the options that may have been meant. -/
  | noSuchOption (name : String) (alike : List String)
  | valueMissing (option : String)
  | valueUnwanted (option : String)
  | argumentMissing (label : String) (choices : List String)
  | unexpectedArguments (args : List String)
  | commandMissing
  /-- With the commands that may have been meant. -/
  | noSuchCommand (name : String) (alike : List String)
  | badValue (label why : String)
  /-- A path that cannot even be looked up. -/
  | nullInPath
deriving DecidableEq, Repr

namespace UsageError

/-- The question whether something else was meant. -/
def question : List String → String
  | [] => ""
  | [one] => " Did you mean " ++ Text.quoted one ++ "?"
  | several =>
    " (Did you mean one of: " ++ ", ".intercalate (several.map Text.quoted) ++ "?)"

def message : UsageError → String
  | noSuchOption name alike => "No such option " ++ Text.quoted name ++ "." ++ question alike
  | valueMissing option => "Option " ++ Text.quoted option ++ " requires an argument."
  | valueUnwanted option => "Option " ++ Text.quoted option ++ " does not take a value."
  | argumentMissing label choices =>
    "Missing argument '" ++ label ++ "'." ++
      if choices.isEmpty then ""
      else " Choose from:\n\t" ++ ",\n\t".intercalate choices
  | unexpectedArguments args =>
    "Got unexpected extra argument" ++ (if args.length = 1 then "" else "s") ++ " (" ++
      " ".intercalate args ++ ")"
  | commandMissing => "Missing command."
  | noSuchCommand name alike => "No such command " ++ Text.quoted name ++ "." ++ question alike
  | badValue label why => "Invalid value for " ++ label ++ ": " ++ why
  | nullInPath => "embedded null byte"

/-- The line of what is printed. -/
def text (e : UsageError) : String := "Error: " ++ e.message

end UsageError

/-- What a parameter takes. -/
inductive Kind
  | text
  | integer
  /-- An integer within bounds. -/
  | range (low high : Int)
  | real
  | choice (options : List String)
  /-- A file to write. -/
  | outputFile
  /-- A name and a value with an equals sign between them. -/
  | assignment
deriving DecidableEq, Repr

/-- Checks one value; `isDirectory` tells which paths are directories. -/
def Kind.check (isDirectory : String → Bool) (value : String) : Kind → Except String Unit
  | text => .ok ()
  | integer =>
    if (Text.integer? value).isSome then .ok ()
    else .error (Text.quoted value ++ " is not a valid integer.")
  | range low high =>
    match Text.integer? value with
    | none => .error (Text.quoted value ++ " is not a valid integer range.")
    | some n =>
      if low ≤ n ∧ n ≤ high then .ok ()
      else .error (toString n ++ " is not in the range " ++ toString low ++ "<=x<=" ++
        toString high ++ ".")
  | real =>
    if (Text.real? value).isSome then .ok ()
    else .error (Text.quoted value ++ " is not a valid float.")
  | choice options =>
    if options.contains value then .ok ()
    else .error (Text.quoted value ++ " is not one of " ++
      ", ".intercalate (options.map Text.quoted) ++ ".")
  | outputFile =>
    if isDirectory value then .error ("File " ++ Text.quoted value ++ " is a directory.")
    else .ok ()
  | assignment =>
    if value.toList.contains '=' then .ok ()
    else .error ("'" ++ value ++ "' is not KEY=VALUE")

/-- An option of a command. -/
structure OptionSpec where
  /-- All spellings; the first one names the option. -/
  spellings : List String
  /-- What its value is; none for a switch. -/
  kind : Option Kind
  /-- Whether every value given counts, and not only the last one. -/
  repeated : Bool
  /-- The environment variable that gives the value for want of the option. -/
  variableName : Option String
deriving DecidableEq, Repr

namespace OptionSpec

def name (o : OptionSpec) : String := o.spellings.headD ""

/-- The option in messages. -/
def label (o : OptionSpec) : String :=
  " / ".intercalate (o.spellings.map fun s => "'" ++ s ++ "'")

def switch (spellings : List String) : OptionSpec := ⟨spellings, none, false, none⟩

def single (spellings : List String) (kind : Kind) : OptionSpec :=
  ⟨spellings, some kind, false, none⟩

end OptionSpec

/-- A positional argument, which must be given. -/
structure ArgumentSpec where
  label : String
  kind : Kind
deriving DecidableEq, Repr

namespace ArgumentSpec

/-- An argument that takes any text. -/
def text (label : String) : ArgumentSpec := ⟨label, .text⟩

/-- An argument that takes one of these words, which are its label too. -/
def choice (options : List String) : ArgumentSpec :=
  ⟨"\x7b" ++ "|".intercalate options ++ "\x7d", .choice options⟩

def choices (a : ArgumentSpec) : List String :=
  match a.kind with
  | .choice options => options
  | _ => []

end ArgumentSpec

/-- What a command takes. -/
structure Grammar where
  options : List OptionSpec
  arguments : List ArgumentSpec
deriving DecidableEq, Repr

/-- The options of a command line with their values, in order, and what is left. -/
structure Given where
  options : List (OptionSpec × String)
  rest : List String

namespace Given

def withOptions (g : Given) (os : List (OptionSpec × String)) : Given :=
  { g with options := os ++ g.options }

def withArgument (g : Given) (arg : String) : Given := { g with rest := arg :: g.rest }

end Given

def helpOption : OptionSpec := .switch ["--help"]

namespace Grammar

/-- The option of a spelling; every command has the option for help. -/
def find? (g : Grammar) (spelling : String) : Option OptionSpec :=
  (g.options ++ [helpOption]).find? fun o => o.spellings.contains spelling

/-- All spellings of options with two hyphens in front. -/
def longSpellings (g : Grammar) : List String :=
  ((g.options ++ [helpOption]).flatMap OptionSpec.spellings).filter fun s => s.startsWith "--"

/-- What one word of options comes to: switches, and at most one option with a value at the end,
which may stand in the word itself. -/
structure Word where
  switches : List OptionSpec
  last : Option (OptionSpec × String × Option String)

/-- A run of one-letter options. -/
def shortWord (g : Grammar) : List Char → Except UsageError Word
  | [] => .ok ⟨[], none⟩
  | c :: rest =>
    let spelling := String.ofList ['-', c]
    match g.find? spelling with
    | none => .error (.noSuchOption spelling [])
    | some o =>
      match o.kind with
      | some _ =>
        .ok ⟨[], some (o, spelling, if rest.isEmpty then none else some (String.ofList rest))⟩
      | none => (g.shortWord rest).map fun w => { w with switches := o :: w.switches }

/-- A word that begins with a hyphen. Long spellings may have their value after an equals sign. -/
def word (g : Grammar) (arg : String) : Except UsageError Word :=
  let cs := arg.toList
  let spelling := String.ofList (cs.takeWhile (· != '='))
  let value := match cs.dropWhile (· != '=') with
    | [] => none
    | _ :: v => some (String.ofList v)
  let isLong := cs.take 2 == ['-', '-']
  match if isLong then g.find? spelling else none with
  | some o =>
    match o.kind, value with
    | some _, _ => .ok ⟨[], some (o, spelling, value)⟩
    | none, none => .ok ⟨[o], none⟩
    | none, some _ => .error (.valueUnwanted spelling)
  | none =>
    if isLong then .error (.noSuchOption spelling (Text.suggestions spelling g.longSpellings))
    else g.shortWord cs.tail

/-- Separates options from the rest. If `mixed` is off, options end at the first other word. -/
def scan (g : Grammar) (mixed : Bool) : List String → Except UsageError Given
  | [] => .ok ⟨[], []⟩
  | arg :: rest =>
    if arg == "--" then .ok ⟨[], rest⟩
    else if arg.startsWith "-" && arg.length > 1 then
      match g.word arg with
      | .error e => .error e
      | .ok w =>
        let switches := w.switches.map fun o => (o, "")
        match w.last, rest with
        | none, rest => (g.scan mixed rest).map fun given => given.withOptions switches
        | some (o, _, some value), rest =>
          (g.scan mixed rest).map fun given => given.withOptions (switches ++ [(o, value)])
        | some (o, _, none), value :: rest =>
          (g.scan mixed rest).map fun given => given.withOptions (switches ++ [(o, value)])
        | some (_, spelling, none), [] => .error (.valueMissing spelling)
    else if mixed then (g.scan mixed rest).map fun given => given.withArgument arg
    else .ok ⟨[], arg :: rest⟩

end Grammar

/-- Where command lines are read: what is a directory, and the environment variables. -/
structure Surroundings where
  isDirectory : String → Bool
  valueOf? : String → Option String

/-- Checked values: of options by name, and of the arguments. -/
structure Values where
  options : List (String × String)
  arguments : List String
  help : Bool

namespace Values

def has (v : Values) (name : String) : Bool := v.options.any fun o => o.1 == name

def all (v : Values) (name : String) : List String :=
  (v.options.filter fun o => o.1 == name).map (·.2)

def last? (v : Values) (name : String) : Option String := (v.all name).getLast?

def argument (v : Values) (i : Nat) : String := (v.arguments[i]?).getD ""

end Values

/-- Checks a value of a parameter. -/
def Kind.checkAs (label : String) (around : Surroundings) (kind : Kind) (value : String) :
    Except UsageError Unit :=
  if kind = .outputFile ∧ value.toList.contains '\x00' then .error .nullInPath
  else (kind.check around.isDirectory value).mapError (.badValue label)

namespace OptionSpec

/-- The values of an option that count. -/
def counting (o : OptionSpec) (given : List (OptionSpec × String)) : List String :=
  let values := (given.filter fun g => g.1 == o).map (·.2)
  if o.repeated then values else values.getLast?.toList

/-- The values of an option, checked. -/
def checked (o : OptionSpec) (around : Surroundings) (values : List String) :
    Except UsageError (List (String × String)) :=
  match o.kind with
  | none => .ok (values.map fun v => (o.name, v))
  | some kind => values.mapM fun v => do
    kind.checkAs o.label around v
    return (o.name, v)

/-- The value that the environment gives to an option; an empty one is none. -/
def fromVariable (o : OptionSpec) (around : Surroundings) : List String :=
  match o.variableName.bind around.valueOf? with
  | some v => if v.isEmpty then [] else [v]
  | none => []

end OptionSpec

namespace Grammar

/-- The options that were given, each once, in order of first appearance. -/
def distinct (given : List (OptionSpec × String)) : List OptionSpec :=
  given.foldl (fun os g => if os.contains g.1 then os else os ++ [g.1]) []

/-- Checks the arguments in order. -/
def checkArguments (around : Surroundings) :
    List ArgumentSpec → List String → Except UsageError Unit
  | [], _ => .ok ()
  | a :: _, [] => .error (.argumentMissing a.label a.choices)
  | a :: as, v :: vs => do
    a.kind.checkAs ("'" ++ a.label ++ "'") around v
    checkArguments around as vs

/-- The values of a command line: first the options given, then the arguments, then what the
environment says, and last whether a word is left over. -/
def values (g : Grammar) (around : Surroundings) (args : List String) :
    Except UsageError Values := do
  let given ← g.scan true args
  if given.options.any fun o => o.1 == helpOption then return ⟨[], [], true⟩
  let named := distinct given.options
  let options ← named.mapM fun o => o.checked around (o.counting given.options)
  checkArguments around g.arguments given.rest
  let absent := g.options.filter fun o => !named.contains o
  let defaults ← absent.mapM fun o => o.checked around (o.fromVariable around)
  let extra := given.rest.drop g.arguments.length
  if extra.isEmpty then
    return ⟨(options ++ defaults).flatten, given.rest.take g.arguments.length, false⟩
  else throw (.unexpectedArguments extra)

end Grammar

end DevEnv.CommandLine
