import DevEnv.Proofs.CommandLine.Printing
import DevEnv.Proofs.CommandLine.Session
import DevEnv.Proofs.Dockerfile.Compiled
import DevEnv.Proofs.Pipeline.Requests
import DevEnv.Proofs.Pipeline.Shipment

/-!
The way from an environment to an image and a container. On its course every step is taken once, in
order, and the first that fails is the last one. Commands follow that course: they leave the daemon as it
does, and say which step failed and why.
-/

namespace DevEnv.CommandLine

set_option autoImplicit false

open Daemon

variable {σ α β γ : Type}

/-! ### Courses -/

/-- The step that fails, and how. -/
structure Stop where
  task : Task
  escape : Escape
deriving DecidableEq, Repr

abbrev Course (σ α : Type) := ExceptT Stop (StateM σ) α

namespace Course

/-- A step that is a service's. -/
def step (task : Task) (service : Service σ α) : Course σ α := fun s =>
  ((service s).1.mapError (Stop.mk task), (service s).2)

def file (e : Environment) : Course σ String :=
  step .generate fun s => (e.toDraft.generate.2.mapError .failed, s)

def image (client : Client σ) (standIns : Text.StandIns) (e : Environment) (tag : String) :
    Course σ BuildResult := do
  let text ← file e
  step .build (client.reach false (client.buildText standIns text tag))

def container (client : Client σ) (standIns : Text.StandIns) (e : Environment) (tag : String)
    (request : RunRequest) : Course σ (BuildResult × String) := do
  let result ← image client standIns e tag
  let id ← step .run (client.runContainer request)
  return (result, id)

/-- A step ends as its service does. -/
theorem run_step (task : Task) (service : Service σ α) (s : σ) :
    (step task service).run.run s = ((service s).1.mapError (Stop.mk task), (service s).2) := rfl

theorem run_file (e : Environment) (s : σ) :
    (file e).run.run s = (e.toDraft.generate.2.mapError fun f => ⟨.generate, .failed f⟩, s) := by
  rw [file, run_step]
  cases e.toDraft.generate.2 <;> rfl

end Course

/-- The tag of an image, with the one given if there is any. -/
def tagOf (e : Environment) (given : Option String) : String :=
  (given? given).getD (ImageName.tag e.name)

/-- The container to run of an image. -/
def requestOf (e : Environment) (suffix tag : String) (options : RunOptions) : RunRequest :=
  ⟨tag, (given? options.name).getD (ImageName.container e.name suffix), e.toDraft.portMap,
    options.env⟩

/-! ### Commands on a course -/

/-- What is said to have failed. -/
def headline : Task → String
  | .generate => "Generation failed"
  | .build => "Build failed"
  | .run => "Run failed"

namespace Stop

/-- What a command prints on the error channel where its course stops. -/
def report : Stop → String
  | ⟨task, .failed f⟩ => Text.withoutCodes (headline task ++ ": " ++ f.describe ++ "\n")
  | ⟨_, .interrupted⟩ => ""

def ending : Stop → Ending
  | ⟨_, .failed _⟩ => .status 1
  | ⟨_, .interrupted⟩ => .interrupted

end Stop

/-- A command ends as its course does, with results that `Q` relates. -/
inductive Follows (err : String) (Q : β → α → Session σ → Prop) :
    Except Stop β × σ → Except Ending α × Session σ → Prop
  | done {b : β} {a : α} {s : σ} {u : Session σ} (daemon : u.daemon = s) (quiet : u.err = err)
    (holds : Q b a u) : Follows err Q (.ok b, s) (.ok a, u)
  | stopped {stop : Stop} {s : σ} {u : Session σ} (daemon : u.daemon = s)
    (said : u.err = err ++ stop.report) : Follows err Q (.error stop, s) (.error stop.ending, u)

theorem Follows.bind {err : String} {Q : β → α → Session σ → Prop} {δ : Type}
    {R : γ → δ → Session σ → Prop} {course : Course σ β} {more : β → Course σ γ}
    {command : CommandM σ α} {rest : α → CommandM σ δ} {s : σ} {t : Session σ}
    (first : Follows err Q (course.run.run s) (command.run.run t))
    (next : ∀ b a u, u.err = err → Q b a u →
      Follows err R ((more b).run.run u.daemon) ((rest a).run.run u)) :
    Follows err R ((course >>= more).run.run s) ((command >>= rest).run.run t) := by
  generalize leads : course.run.run s = way at first
  generalize ends : command.run.run t = ending at first
  cases first with
  | done daemon quiet holds =>
    subst daemon
    rw [run_bind_of_ok leads, run_bind_of_ok ends]
    exact next _ _ _ quiet holds
  | stopped daemon said =>
    rw [run_bind_of_error leads, run_bind_of_error ends]
    exact .stopped daemon said

theorem Course.run_pure (b : β) (s : σ) : (pure b : Course σ β).run.run s = (.ok b, s) := rfl

theorem run_echo (s : String) (t : Session σ) :
    (echo s).run.run t = (.ok (), { t with out := t.out ++ Text.withoutCodes (s ++ "\n") }) := rfl

theorem run_record (entries : List LogEntry) (t : Session σ) :
    (record entries).run.run t = (.ok (), { t with log := t.log ++ entries }) := rfl

theorem run_reportFailure (p : Pipeline) (t : Session σ) :
    (reportFailure p : CommandM σ α).run.run t = (.error (.status 1), { t with
      err := t.err ++
        Text.withoutCodes (failedStep p.stage ++ ": " ++ p.error.getD "None" ++ "\n") }) := rfl

theorem follows_reportFailure {p : Pipeline} {task : Task} {f : Failure}
    {Q : β → α → Session σ → Prop} (stage : failedStep p.stage = headline task)
    (error : p.error = some f.describe) {t u : Session σ} {s : σ} (quiet : u.err = t.err)
    (daemon : u.daemon = s) :
    Follows t.err Q (.error ⟨task, .failed f⟩, s)
      ((reportFailure p : CommandM σ α).run.run u) := by
  rw [run_reportFailure, stage, error, ← daemon, ← quiet]
  exact .stopped rfl rfl

/-- A step of the daemon's; an interruption ends it, and a failure is left to the command. -/
theorem follows_request {client : Client σ} {task : Task} {service : Service σ β}
    {Q : γ → α → Session σ → Prop} {more : β → Course σ γ} {rest : Except Failure β → CommandM σ α}
    {u : Session σ} {err : String} {s : σ} {connected : Bool} (quiet : u.err = err)
    (daemon : u.daemon = s) (reached : u.connected = connected)
    (done : ∀ b v, (client.reach connected service s).1 = .ok b → v.connected = true →
      v.err = err → v.out = u.out →
      Follows err Q ((more b).run.run v.daemon) ((rest (.ok b)).run.run v))
    (fails : ∀ f v, v.err = err →
      Follows err Q (.error ⟨task, .failed f⟩, v.daemon) ((rest (.error f)).run.run v)) :
    Follows err Q ((Course.step task (client.reach connected service) >>= more).run.run s)
      ((request client service >>= rest).run.run u) := by
  subst daemon reached quiet
  have answered := run_request client service u
  have stepped := Course.run_step task (client.reach u.connected service) u.daemon
  cases came : (client.reach u.connected service u.daemon).1 with
  | ok b =>
    rw [came] at answered stepped
    rw [run_bind_of_ok answered, run_bind_of_ok stepped]
    exact done b { u with daemon := _, connected := _ } came (Session.opens_of_reach came) rfl rfl
  | error escape =>
    rw [came] at answered stepped
    rw [run_bind_of_error stepped]
    -- A failure is an answer for the command, which goes on; an interruption ends it at once.
    cases escape with
    | failed f =>
      rw [run_bind_of_ok answered]
      exact fails f { u with daemon := _, connected := _ } rfl
    | interrupted =>
      rw [run_bind_of_error answered]
      exact .stopped rfl String.append_empty.symm

/-- The output of a build as it is printed. -/
def outputText (logs : List Json) : String :=
  String.join (logs.map fun v => if v = .null then "" else Text.withoutCodes v.display)

theorem run_forM_writeOutput (logs : List Json) (t : Session σ) :
    (logs.forM writeOutput : CommandM σ PUnit).run.run t =
      (.ok ⟨⟩, { t with out := t.out ++ outputText logs }) := by
  induction logs generalizing t with
  | nil =>
    have nothing : t.out ++ outputText [] = t.out := String.append_empty
    rw [nothing]
    rfl
  | cons v logs ih =>
    have first : (writeOutput v : CommandM σ Unit).run.run t = (.ok (), { t with
        out := t.out ++ if v = .null then "" else Text.withoutCodes v.display }) := by
      unfold writeOutput
      split
      · rw [String.append_empty]
        rfl
      · rfl
    have steps : (v :: logs).forM writeOutput =
        (writeOutput v >>= fun _ => logs.forM writeOutput : CommandM σ PUnit) := rfl
    rw [steps, run_bind_of_ok first, ih]
    simp [outputText, String.append_assoc]

/-! ### Generation -/

/-- A build file is made of every environment that has a language. -/
theorem generate_toDraft (e : Environment) : e.toDraft.generate.2 =
    if e.languages = [] then .error (.engine (.incomplete "At least one language is required"))
    else .ok e.compiled.text := by
  obtain ⟨system, -, name, listed, version⟩ := Dockerfile.system?_of_base e.system
  have filled : ∀ system ∈ Catalog.systems, system.name ≠ "" ∧ ∀ v ∈ system.versions, v ≠ "" := by
    decide
  have named := Json.isTruthy_text (filled system listed).1
  have versioned := Json.isTruthy_text ((filled system listed).2 _ version)
  rw [name] at named
  have gap : e.toDraft.gap? = if e.languages = [] then some .languages else none := by
    cases languages : e.languages <;>
      simp [Draft.gap?, Environment.toDraft, named, versioned, languages]
  unfold Draft.generate Draft.incompleteness? Draft.assembled
  rw [gap, Environment.assemble_toDraft]
  by_cases none : e.languages = []
  · rw [if_pos none, if_pos none]
    rfl
  · rw [if_neg none, if_neg none]
    rfl

/-- The pipeline that has got a build file for its draft. -/
def readied (e : Environment) (text : String) : Pipeline :=
  ((Pipeline.initial.generate e.toDraft).pipeline.generated 1 (.ok text)).pipeline

theorem run_generation (e : Environment) (t : Session σ) : ∃ log,
    (generation e).run.run t =
      (.ok ((Pipeline.initial.generate e.toDraft).pipeline.generated 1 e.toDraft.generate.2).pipeline,
        { t with log := log }) := ⟨_, rfl⟩

theorem documentText_readied {e : Environment} {text : String}
    (h : e.toDraft.generate.2 = .ok text) : (readied e text).documentText = text := by
  obtain ⟨-, file, assembled, rfl⟩ := Draft.generate_eq_ok_iff.mp h
  have whole : file.text = Text.withOneBreak file.text :=
    (Dockerfile.endsOnce_text (Draft.closed_of_assemble assembled)).eq
  change (Dockerfile.ofText file.text).text = file.text
  rw [Dockerfile.text_ofText, ← whole]

/-- What is done with the build file if there is one, and else a report. -/
theorem follows_generation {e : Environment} {t : Session σ} {Q : β → α → Session σ → Prop}
    {more : String → Course σ β} {rest : Pipeline → CommandM σ α}
    (fails : ∀ p, p.document = none → rest p = reportFailure p)
    (next : ∀ text log, e.toDraft.generate.2 = .ok text →
      Follows t.err Q ((more text).run.run t.daemon)
        ((rest (readied e text)).run.run { t with log := log })) :
    Follows t.err Q ((Course.file e >>= more).run.run t.daemon)
      ((generation e >>= rest).run.run t) := by
  obtain ⟨log, generated⟩ := run_generation e t
  have made := Course.run_file e t.daemon
  rw [run_bind_of_ok generated]
  cases answered : e.toDraft.generate.2 with
  | error f =>
    rw [answered] at made
    rw [run_bind_of_error made, fails _ rfl]
    let p := ((Pipeline.initial.generate e.toDraft).pipeline.generated 1 (.error f)).pipeline
    have stage : failedStep p.stage = headline .generate := rfl
    have error : p.error = some f.describe := rfl
    exact follows_reportFailure stage error rfl rfl
  | ok text =>
    rw [answered] at made
    rw [run_bind_of_ok made]
    exact next text log answered

/-! ### Building -/

/-- The pipeline after a build of this image. -/
structure Imaged (e : Environment) (tag : String) (p : Pipeline) : Prop where
  draft : p.draft = some e.toDraft
  stage : p.stage = .built
  tag : p.tag = some tag
  idle : p.containerId = none

theorem tag_of_resultOfChunks {tag : String} {chunks : List Json} {result : BuildResult}
    (h : resultOfChunks tag chunks = .ok result) : result.tag = tag := by
  unfold resultOfChunks at h
  split at h
  · cases h
  · exact (Except.ok.inj h) ▸ rfl

theorem tag_of_built {client : Client σ} {connected : Bool} {standIns : Text.StandIns}
    {text tag : String} {s : σ} {result : BuildResult}
    (h : (client.reach connected (client.buildText standIns text tag) s).1 = .ok result) :
    result.tag = tag := by
  have served : ∀ s, (client.buildText standIns text tag s).1 = .ok result → result.tag = tag := by
    intro s built
    unfold Client.buildText at built
    split at built
    · cases built
    · simp only [Client.buildImage, Operation.service] at built
      split at built
      · rename_i fault _ _
        cases fault <;> cases built
      · exact tag_of_resultOfChunks built
  cases connected with
  | true => exact served s h
  | false =>
    have reaches : client.reach false (client.buildText standIns text tag) s =
      client.open.andThen (fun _ => client.buildText standIns text tag) s := rfl
    rw [reaches, Service.andThen] at h
    split at h
    · cases h
    · exact served _ h

/-- The pipeline after a build and the answer to it. -/
def answered (p : Pipeline) (tag : String) (answer : Except Failure BuildResult) : Pipeline :=
  ((p.build tag).pipeline.built (p.build tag).pipeline.tokens.build answer).pipeline

theorem answered_ok (p : Pipeline) (tag : String) (result : BuildResult) :
    answered p tag (.ok result) =
      { (p.build tag).pipeline with
        stage := .built, logs := result.logs, tag := some result.tag } := by
  simp [answered, Pipeline.built, Pipeline.build, Pipeline.enter]

theorem answered_error (p : Pipeline) (tag : String) (f : Failure) :
    (answered p tag (.error f)).stage = .buildError ∧
      (answered p tag (.error f)).error = some f.describe := by
  cases f <;> simp [answered, Pipeline.built, Pipeline.build, Pipeline.enter]

/-- What is printed of an image that gets built. -/
def imageText (tag : String) (result : BuildResult) : String :=
  Text.withoutCodes ("Building image " ++ tag ++ "..." ++ "\n") ++ outputText result.logs

theorem run_get (t : Session σ) :
    (get : CommandM σ (Session σ)).run.run t = (.ok t, t) := rfl

/-- What a command does with the answer to a build. -/
def conclude (p : Pipeline) (answer : Except Failure BuildResult) : CommandM σ Pipeline := do
  record (logOf .build answer)
  p.logs.forM writeOutput
  if p.stage = .built then return p else reportFailure p

theorem run_conclude (p : Pipeline) (answer : Except Failure BuildResult) (t : Session σ) :
    ∃ log, (conclude p answer).run.run t =
      ((if p.stage = .built then return p else reportFailure p : CommandM σ Pipeline).run.run
        { t with out := t.out ++ outputText p.logs, log := log }) := by
  refine ⟨t.log ++ logOf .build answer, ?_⟩
  rw [conclude, run_bind_of_ok (run_record _ _), run_bind_of_ok (run_forM_writeOutput _ _)]

/-- The rest of a build, from a build file on. -/
def continueBuild (client : Client σ) (given : Option String) (p : Pipeline) :
    CommandM σ Pipeline := do
  let tag ← orMisuse (p.tagFor given)
  echo ("Building image " ++ tag ++ "...")
  let t ← get
  let answer ← request client (client.buildText t.standIns p.documentText tag)
  conclude (answered p tag answer) answer

theorem buildImage_eq (client : Client σ) (e : Environment) (given : Option String) :
    buildImage client e given = generation e >>= fun p =>
      if p.document.isNone then reportFailure p else continueBuild client given p := rfl

theorem run_conclude_error (p : Pipeline) (tag : String) (f : Failure) (t : Session σ) :
    ∃ log, (conclude (answered p tag (.error f)) (.error f)).run.run t =
      (reportFailure (answered p tag (.error f)) : CommandM σ Pipeline).run.run
        { t with out := t.out ++ outputText (answered p tag (.error f)).logs, log := log } := by
  obtain ⟨log, concludes⟩ := run_conclude (answered p tag (.error f)) (.error f) t
  rw [(answered_error p tag f).1, if_neg (by decide)] at concludes
  exact ⟨log, concludes⟩

section Continued
variable (client : Client σ) {e : Environment}

theorem run_continueBuild {text : String} (compiled : e.toDraft.generate.2 = .ok text)
    (given : Option String) (u : Session σ) :
    (continueBuild client given (readied e text)).run.run u =
      (request client (client.buildText u.standIns text (tagOf e given)) >>= fun answer =>
        conclude (answered (readied e text) (tagOf e given) answer) answer).run.run { u with
          out := u.out ++ Text.withoutCodes ("Building image " ++ tagOf e given ++ "..." ++ "\n") } := by
  have tagged : (orMisuse ((readied e text).tagFor given)).run.run u =
      (.ok (tagOf e given), u) := by
    rw [Pipeline.tagFor_toDraft (e := e) rfl given]
    rfl
  rw [continueBuild, run_bind_of_ok tagged, run_bind_of_ok (run_echo _ _),
    run_bind_of_ok (run_get _), documentText_readied compiled]

theorem follows_continueBuild {text : String} (compiled : e.toDraft.generate.2 = .ok text)
    (given : Option String) {u : Session σ} (fresh : u.connected = false) :
    Follows u.err
      (fun result p v => Imaged e (tagOf e given) p ∧ v.connected = true ∧
        v.out = u.out ++ imageText (tagOf e given) result)
      ((Course.step .build
        (client.reach false (client.buildText u.standIns text (tagOf e given)))).run.run u.daemon)
      ((continueBuild client given (readied e text)).run.run u) := by
  rw [run_continueBuild client compiled, ← bind_pure (Course.step .build _)]
  refine follows_request rfl rfl fresh ?_ ?_
  · intro result v built connected quiet out
    obtain ⟨log, concludes⟩ :=
      run_conclude (answered (readied e text) (tagOf e given) (.ok result)) (.ok result) v
    rw [answered_ok, if_pos rfl] at concludes
    rw [answered_ok, concludes]
    refine .done rfl quiet ?_
    refine ⟨⟨rfl, rfl, congrArg some (tag_of_built built), rfl⟩, connected, ?_⟩
    rw [out, imageText, String.append_assoc]
  · intro f v quiet
    obtain ⟨stage, error⟩ := answered_error (readied e text) (tagOf e given) f
    obtain ⟨log, concludes⟩ := run_conclude_error (readied e text) (tagOf e given) f v
    rw [concludes]
    refine follows_reportFailure ?_ error quiet rfl
    rw [stage]
    rfl

end Continued

theorem follows_buildImage (client : Client σ) (e : Environment) (given : Option String)
    {t : Session σ} (fresh : t.connected = false) :
    Follows t.err
      (fun result p u => Imaged e (tagOf e given) p ∧ u.connected = true ∧
        u.out = t.out ++ imageText (tagOf e given) result)
      ((Course.image client t.standIns e (tagOf e given)).run.run t.daemon)
      ((buildImage client e given).run.run t) := by
  rw [buildImage_eq]
  refine follows_generation (fun p none => by simp [none]) fun text log compiled => ?_
  exact follows_continueBuild client compiled given (u := { t with log := log }) fresh

/-- What is printed when an image has been built. -/
def builtText (tag : String) : String := Text.withoutCodes ("Image built: " ++ tag ++ "\n")

/-- The pipeline after a run and the answer to it. -/
def started (p : Pipeline) (answer : Except Failure String) : Pipeline :=
  (p.run.pipeline.ran p.run.pipeline.tokens.run answer).pipeline

theorem started_ok (p : Pipeline) (id : String) : (started p (.ok id)).containerId = some id := by
  simp [started, Pipeline.ran, Pipeline.run, Pipeline.enter]

theorem started_error (p : Pipeline) (f : Failure) :
    started p (.error f) =
      { p.run.pipeline with stage := .runError, error := some f.describe } := by
  simp [started, Pipeline.ran, Pipeline.run, Pipeline.enter]

/-- The command for a remote login. -/
def connectLine (e : Environment) : String :=
  match e.activeSsh? with
  | some a => "Connect with: " ++ Container.sshCommandAt a.port ++ "\n"
  | none => ""

theorem plain_connectLine (e : Environment) : Plain (connectLine e) := by
  unfold connectLine
  cases e.activeSsh? with
  | none => exact plain_empty
  | some a =>
    have label : Plain "Connect with: " := plain_literal rfl
    have program : Plain "ssh -p " := plain_literal rfl
    have host : Plain " root@localhost" := plain_literal rfl
    have stop : Plain "\n" := plain_literal rfl
    exact (label.append ((program.append (plain_toString a.port)).append host)).append stop

/-- What is printed of a container that gets started. -/
def containerText (id : String) : String :=
  Text.withoutCodes ("Container started: " ++ Container.shortId id ++ "\n")

/-- What a command does with the answer to a run. -/
def finish (e : Environment) (p : Pipeline) : CommandM σ Unit :=
  match p.containerId with
  | none => reportFailure p
  | some id => do
    echo ("Container started: " ++ Container.shortId id)
    match e.ssh with
    | some a => if a.enabled then echo ("Connect with: " ++ Container.sshCommandAt a.port)
    | none => return ()

theorem run_finish (e : Environment) {p : Pipeline} {id : String} (h : p.containerId = some id)
    (t : Session σ) :
    (finish e p).run.run t =
      (.ok (), { t with out := t.out ++ containerText id ++ connectLine e }) := by
  unfold finish
  rw [h]
  dsimp only
  rw [run_bind_of_ok (run_echo _ _), ← (plain_connectLine e).withoutCodes_eq, connectLine,
    Environment.activeSsh?]
  have nothing : ∀ s : String, s ++ Text.withoutCodes "" = s := fun s => String.append_empty
  cases e.ssh with
  | none =>
    simp only [Option.filter_none, nothing]
    rfl
  | some a =>
    cases on : a.enabled with
    | false =>
      simp only [Option.filter_some, on, Bool.false_eq_true, if_false, nothing]
      rfl
    | true =>
      simp only [Option.filter_some, on, if_true]
      rfl

/-- The rest of a run, from an image on. -/
def continueRun (client : Client σ) (e : Environment) (suffix : String) (options : RunOptions)
    (p : Pipeline) : CommandM σ Unit := do
  echo ("Image built: " ++ p.tag.getD "")
  let order ← orMisuse (p.runRequest options suffix)
  let answer ← request client (client.runContainer order)
  record (logOf .run answer)
  finish e (started p answer)

theorem run_continueRun (client : Client σ) {e : Environment} {tag : String} (suffix : String)
    (options : RunOptions) {p : Pipeline} (imaged : Imaged e tag p) (u : Session σ) :
    (continueRun client e suffix options p).run.run u =
      (request client (client.runContainer (requestOf e suffix tag options)) >>= fun answer =>
        record (logOf .run answer) >>= fun _ => finish e (started p answer)).run.run
          { u with out := u.out ++ builtText tag } := by
  have ordered : ∀ v : Session σ, (orMisuse (p.runRequest options suffix)).run.run v =
      (.ok (requestOf e suffix tag options), v) := by
    intro v
    rw [Pipeline.runRequest_toDraft imaged.draft, imaged.tag]
    rfl
  rw [continueRun, run_bind_of_ok (run_echo _ _), run_bind_of_ok (ordered _), imaged.tag]
  rfl

/-- A run without an answer leaves no container, and is reported. -/
theorem run_finish_error {e : Environment} {tag : String} {p : Pipeline} (imaged : Imaged e tag p)
    (f : Failure) (t : Session σ) : (finish e (started p (.error f))).run.run t =
      (reportFailure (started p (.error f)) : CommandM σ Unit).run.run t := by
  have idle : p.run.pipeline.containerId = none := imaged.idle
  simp only [finish, started_error, idle]

theorem follows_run (client : Client σ) (e : Environment) (suffix : String) (options : RunOptions)
    (given : Option String) {t : Session σ} (fresh : t.connected = false) :
    let tag := tagOf e given
    Follows t.err
      (fun result _ u => u.out =
        t.out ++ imageText tag result.1 ++ builtText tag ++ containerText result.2 ++ connectLine e)
      ((Course.container client t.standIns e tag (requestOf e suffix tag options)).run.run t.daemon)
      ((buildImage client e given >>= continueRun client e suffix options).run.run t) := by
  intro tag
  refine (follows_buildImage client e given fresh).bind fun result p u quiet built => ?_
  obtain ⟨imaged, connected, out⟩ := built
  have reaches : client.runContainer (requestOf e suffix tag options) =
    client.reach true (client.runContainer (requestOf e suffix tag options)) := rfl
  rw [run_continueRun client suffix options imaged, reaches]
  refine follows_request quiet rfl connected ?_ ?_
  · intro id v _ _ quiet same
    rw [run_bind_of_ok (run_record _ _), run_finish e (started_ok p id), Course.run_pure]
    refine .done rfl quiet ?_
    rw [same, out]
  · intro f v quiet
    rw [run_bind_of_ok (run_record _ _), run_finish_error imaged, started_error]
    exact follows_reportFailure rfl rfl quiet rfl

end DevEnv.CommandLine
