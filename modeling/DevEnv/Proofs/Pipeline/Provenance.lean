import DevEnv.Proofs.Dockerfile.Lines
import DevEnv.Proofs.Outcome
import DevEnv.Proofs.Pipeline.History
import Mathlib.Data.List.Induction

/-!
Where the results at hand come from. The history of a run tells which call every result answers:
the build file is the answer to the latest generation, the image that of a build of this very build
file, and the container that of a run of this very image. No result of an earlier draft is ever at
hand, in whatever order the answers come.
-/

namespace DevEnv

set_option autoImplicit false

/-- The ports that a container of the draft publishes: its login port, if it has remote access. -/
def Draft.portMap (d : Draft) : List (Json × Int) :=
  match d.ssh with
  | some a => if a.enabled then [(a.port, 22)] else []
  | none => []

namespace Pipeline

/-! ### What happened in a history -/

/-- The step is in the history, and `later` is all that came after it. -/
def Happened (h : List Step) (s : Step) (later : List Step) : Prop :=
  ∃ earlier, h = earlier ++ s :: later

/-- The request made the call of this number. -/
def Asked (h : List Step) (request : Event) (number : Nat) (call : Call) (later : List Step) :
    Prop :=
  ∃ s, Happened h s later ∧ s.event = request ∧ s.reaction.called = some (number, call)

/-- The caller of this number got an answer. -/
def Answered (h : List Step) (number : Nat) (answer : Event) (later : List Step) : Prop :=
  ∃ s, Happened h s later ∧ s.event = answer ∧
    ∃ value, s.reaction.returned = some (some number, value)

/-- No draft comes up in the history. -/
def Undisturbed (h : List Step) : Prop := ∀ s ∈ h, s.event.request? ≠ some .generate

/-- The text answers the latest generation, which is one of the draft. -/
def Generated (h : List Step) (d : Draft) (text : String) (later : List Step) : Prop :=
  ∃ number rest, Asked h (.generate d) number (.generate d) rest ∧ Undisturbed rest ∧
    Answered rest number (.generated number (.ok text)) later

/-- The tag of a build: the given one, or else that of the draft's name. -/
def ChosenTag (d : Draft) (given : Option String) (tag : String) : Prop :=
  given = some tag ∧ tag ≠ "" ∨
    (given = none ∨ given = some "") ∧
      ∃ name, ImageName.ofValue d.name = .ok name ∧ tag = ImageName.tag name

/-- The result answers a build of the text that answers the latest generation. -/
def Imaged (h : List Step) (d : Draft) (text : String) (result : BuildResult)
    (later : List Step) : Prop :=
  ∃ number given tag generated rest, Generated h d text generated ∧
    Asked generated (.build given) number (.build (Text.withOneBreak text) tag) rest ∧
    ChosenTag d given tag ∧ Answered rest number (.built number (.ok result)) later

/-- The request asks for a container of the draft from the image. -/
def Suits (request : RunRequest) (d : Draft) (tag : String) : Prop :=
  request.imageTag = tag ∧ request.portMap = d.portMap

/-- The id answers a run of the image. -/
def Started (h : List Step) (d : Draft) (tag : String) (id : String) : Prop :=
  ∃ number options suffix request rest later,
    Asked h (.run options suffix) number (.run request) rest ∧ Suits request d tag ∧
    Answered rest number (.ran number (.ok id)) later

section Grow

variable {h later : List Step} {s t : Step} {d : Draft} {text tag id : String}
  {result : BuildResult} {request answer : Event} {number : Nat} {call : Call}

theorem Happened.grow (hs : Happened h s later) (t : Step) :
    Happened (h ++ [t]) s (later ++ [t]) := by
  obtain ⟨earlier, rfl⟩ := hs
  exact ⟨earlier, by simp⟩

theorem happened_last (h : List Step) (s : Step) : Happened (h ++ [s]) s [] := ⟨h, rfl⟩

theorem Asked.grow (ha : Asked h request number call later) (t : Step) :
    Asked (h ++ [t]) request number call (later ++ [t]) := by
  obtain ⟨s, hs, hevent, hcalled⟩ := ha
  exact ⟨s, hs.grow t, hevent, hcalled⟩

theorem Answered.grow (ha : Answered h number answer later) (t : Step) :
    Answered (h ++ [t]) number answer (later ++ [t]) := by
  obtain ⟨s, hs, hevent, hreturned⟩ := ha
  exact ⟨s, hs.grow t, hevent, hreturned⟩

theorem Undisturbed.grow (hu : Undisturbed h) (ht : t.event.request? ≠ some .generate) :
    Undisturbed (h ++ [t]) := by
  intro s hs
  rcases List.mem_append.mp hs with hs | hs
  · exact hu s hs
  · rw [List.mem_singleton.mp hs]
    exact ht

theorem Generated.grow (hg : Generated h d text later) (ht : t.event.request? ≠ some .generate) :
    Generated (h ++ [t]) d text (later ++ [t]) := by
  obtain ⟨number, rest, hasked, hrest, hanswered⟩ := hg
  exact ⟨number, rest ++ [t], hasked.grow t, hrest.grow ht, hanswered.grow t⟩

theorem Imaged.grow (hi : Imaged h d text result later)
    (ht : t.event.request? ≠ some .generate) :
    Imaged (h ++ [t]) d text result (later ++ [t]) := by
  obtain ⟨number, given, tag, generated, rest, hg, hasked, htag, hanswered⟩ := hi
  exact ⟨number, given, tag, generated ++ [t], rest ++ [t], hg.grow ht, hasked.grow t, htag,
    hanswered.grow t⟩

theorem Started.grow (hs : Started h d tag id) (t : Step) : Started (h ++ [t]) d tag id := by
  obtain ⟨number, options, suffix, request, rest, later, hasked, hsuits, hanswered⟩ := hs
  exact ⟨number, options, suffix, request, rest ++ [t], later ++ [t], hasked.grow t, hsuits,
    hanswered.grow t⟩

end Grow

/-! ### What the requests are made of -/

open Outcome

theorem chosenTag_of_tagFor {p : Pipeline} {d : Draft} {given : Option String} {tag : String}
    (hd : p.draft = some d) (h : p.tagFor given = .ok tag) : ChosenTag d given tag := by
  have derived : p.nameOf.map ImageName.tag = .ok tag →
      ∃ name, ImageName.ofValue d.name = .ok name ∧ tag = ImageName.tag name := by
    intro hname
    obtain ⟨name, hn, rfl⟩ := map_eq_ok_iff.mp hname
    exact ⟨name, by simpa [nameOf, hd] using hn, rfl⟩
  cases given with
  | none => exact .inr ⟨.inl rfl, derived h⟩
  | some s =>
    simp only [tagFor, givenOr] at h
    split at h
    · rename_i hempty
      exact .inr ⟨.inr (by simpa using hempty), derived h⟩
    · rename_i hempty
      cases h
      exact .inl ⟨rfl, by simpa using hempty⟩

theorem eq_portMap_of_publishedPorts {d : Draft} {ports : List (Json × Int)}
    (h : publishedPorts d = .ok ports) : ports = d.portMap := by
  simp only [publishedPorts] at h
  simp only [Draft.portMap]
  split at h
  · split at h
    · obtain ⟨_, _, rfl⟩ := map_eq_ok_iff.mp h
      simp [*, Catalog.sshContainerPort]
    · cases h
      simp [*]
  · cases h
    simp [*]

theorem suits_of_runRequest {p : Pipeline} {d : Draft} {tag suffix : String} {options : RunOptions}
    {request : RunRequest} (hd : p.draft = some d) (ht : p.tag = some tag)
    (h : p.runRequest options suffix = .ok request) : Suits request d tag := by
  simp only [runRequest, hd, ht, Option.getD_some] at h
  obtain ⟨name, _, h⟩ := bind_eq_ok_iff.mp h
  obtain ⟨ports, hports, h⟩ := bind_eq_ok_iff.mp h
  cases h
  exact ⟨rfl, eq_portMap_of_publishedPorts hports⟩

/-! ### The invariant -/

/-- The pipeline holds the draft, and the build file that the text stands for. -/
structure Filled (p : Pipeline) (d : Draft) (text : String) : Prop where
  draft : p.draft = some d
  document : p.document = some (.ofText text)

/-- The pipeline holds the image that a build came to. -/
structure Holds (p : Pipeline) (result : BuildResult) : Prop where
  tag : p.tag = some result.tag
  logs : p.logs = result.logs

/-- How far the history has come since its latest draft, and that all results at hand are from
there. While an answer is awaited the history tells the call that it will answer. -/
inductive Origin (h : List Step) (m : Machine) : Prop
  | blank (stage : m.pipeline.stage ∈ [Stage.idle, .generateError])
  | generating {d : Draft} {number : Nat} {rest : List Step}
    (stage : m.pipeline.stage = .generating) (draft : m.pipeline.draft = some d)
    (asked : Asked h (.generate d) number (.generate d) rest) (undisturbed : Undisturbed rest)
    (awaits : ∀ w ∈ m.current, w.number = number)
  | ready {d : Draft} {text : String} {later : List Step}
    (stage : m.pipeline.stage ∈ [Stage.ready, .buildError]) (filled : Filled m.pipeline d text)
    (generated : Generated h d text later)
  | building {d : Draft} {text : String} {later : List Step} {number : Nat}
    {given : Option String} {tag : String} {rest : List Step}
    (stage : m.pipeline.stage = .building) (filled : Filled m.pipeline d text)
    (generated : Generated h d text later)
    (asked : Asked later (.build given) number (.build (Text.withOneBreak text) tag) rest)
    (chosen : ChosenTag d given tag) (awaits : ∀ w ∈ m.current, w.number = number)
  | built {d : Draft} {text : String} {result : BuildResult} {later : List Step}
    (stage : m.pipeline.stage ∈ [Stage.built, .runError]) (filled : Filled m.pipeline d text)
    (imaged : Imaged h d text result later) (holds : Holds m.pipeline result)
  | running {d : Draft} {text : String} {result : BuildResult} {later : List Step} {number : Nat}
    {options : RunOptions} {suffix : String} {request : RunRequest} {rest : List Step}
    (stage : m.pipeline.stage = .running) (filled : Filled m.pipeline d text)
    (imaged : Imaged h d text result later) (holds : Holds m.pipeline result)
    (asked : Asked later (.run options suffix) number (.run request) rest)
    (suits : Suits request d result.tag) (awaits : ∀ w ∈ m.current, w.number = number)
  | ran {d : Draft} {text : String} {result : BuildResult} {later : List Step} {id : String}
    (stage : m.pipeline.stage = .ran) (filled : Filled m.pipeline d text)
    (imaged : Imaged h d text result later) (holds : Holds m.pipeline result)
    (started : Started later d result.tag id) (containerId : m.pipeline.containerId = some id)

namespace Origin

variable {h : List Step} {m n : Machine} {e : Event} {r : Reaction}

/-- A step that brings no draft and no result keeps what the history says. -/
theorem grow (ho : Origin h m) {t : Step} (ht : t.event.request? ≠ some .generate)
    (hp : n.pipeline = { m.pipeline with tokens := n.pipeline.tokens })
    (hc : ∀ w ∈ n.current, w ∈ m.current) : Origin (h ++ [t]) n := by
  have hstage : n.pipeline.stage = m.pipeline.stage := by rw [hp]
  have hdraft : n.pipeline.draft = m.pipeline.draft := by rw [hp]
  have hid : n.pipeline.containerId = m.pipeline.containerId := by rw [hp]
  have hfilled : ∀ {d text}, Filled m.pipeline d text → Filled n.pipeline d text := by
    rintro d text ⟨h₁, h₂⟩
    rw [hp]
    exact ⟨h₁, h₂⟩
  have hholds : ∀ {result}, Holds m.pipeline result → Holds n.pipeline result := by
    rintro result ⟨h₁, h₂⟩
    rw [hp]
    exact ⟨h₁, h₂⟩
  cases ho with
  | blank stage => exact .blank (hstage ▸ stage)
  | generating stage draft asked undisturbed awaits =>
    exact .generating (hstage.trans stage) (hdraft.trans draft) (asked.grow t)
      (undisturbed.grow ht) fun w hw => awaits w (hc w hw)
  | ready stage filled generated =>
    exact .ready (hstage ▸ stage) (hfilled filled) (generated.grow ht)
  | building stage filled generated asked chosen awaits =>
    exact .building (hstage.trans stage) (hfilled filled) (generated.grow ht) (asked.grow t) chosen
      fun w hw => awaits w (hc w hw)
  | built stage filled imaged holds =>
    exact .built (hstage ▸ stage) (hfilled filled) (imaged.grow ht) (hholds holds)
  | running stage filled imaged holds asked suits awaits =>
    exact .running (hstage.trans stage) (hfilled filled) (imaged.grow ht) (hholds holds)
      (asked.grow t) suits fun w hw => awaits w (hc w hw)
  | ran stage filled imaged holds started containerId =>
    exact .ran (hstage.trans stage) (hfilled filled) (imaged.grow ht) (hholds holds)
      (started.grow t) (hid.trans containerId)

theorem of_ready (ho : Origin h m)
    (hs : m.pipeline.stage = .ready ∨ m.pipeline.stage = .buildError) :
    ∃ d text later, Filled m.pipeline d text ∧ Generated h d text later := by
  cases ho with
  | ready stage filled generated => exact ⟨_, _, _, filled, generated⟩
  | _ => rcases hs with hs | hs <;> simp_all

/-- In these stages an image of the latest draft is at hand. -/
theorem of_built (ho : Origin h m) (hs : m.pipeline.stage ∈ [Stage.built, .running, .ran, .runError]) :
    ∃ d text result later, Filled m.pipeline d text ∧ Imaged h d text result later ∧
      Holds m.pipeline result ∧
      (m.pipeline.stage = .ran → ∃ id, m.pipeline.containerId = some id ∧
        Started later d result.tag id) := by
  cases ho with
  | built stage filled imaged holds =>
    refine ⟨_, _, _, _, filled, imaged, holds, ?_⟩
    intro hran
    simp [hran] at stage
  | running stage filled imaged holds =>
    refine ⟨_, _, _, _, filled, imaged, holds, ?_⟩
    intro hran
    simp [hran] at stage
  | ran stage filled imaged holds started containerId =>
    exact ⟨_, _, _, _, filled, imaged, holds, fun _ => ⟨_, containerId, started⟩⟩
  | blank stage => rcases List.mem_cons.mp stage with hblank | hblank <;> simp_all
  | ready stage => rcases List.mem_cons.mp stage with hready | hready <;> simp_all
  | _ => simp_all

theorem issue (hm : m.Inv) (ho : Origin h m) {t : Task} {move : Move} {call : Call}
    (hg : Grants m.pipeline e t move call) :
    Origin (h ++ [⟨m, e, m.issue move t call⟩]) (m.issue move t call).machine := by
  have awaits : ∀ w ∈ (m.issue move t call).machine.current, w.number = m.issued := by
    rw [Machine.current_issue hm hg]
    simp
  have asked : ∀ later call', call = call' →
      Asked (later ++ [⟨m, e, m.issue move t call⟩]) e m.issued call' [] := by
    rintro later _ rfl
    exact ⟨_, happened_last later _, rfl, rfl⟩
  cases hg with
  | generate draft => exact .generating rfl rfl (asked h _ rfl) (by simp [Undisturbed]) awaits
  | build can chosen =>
    simp only [canBuild, Bool.or_eq_true, beq_iff_eq] at can
    obtain ⟨d, text, later, filled, generated⟩ := ho.of_ready can
    have htext : m.pipeline.documentText = Text.withOneBreak text := by
      simp [documentText, filled.document, Dockerfile.text_ofText]
    exact .building rfl ⟨filled.draft, filled.document⟩ (generated.grow (by simp [Event.request?]))
      (asked later _ (by rw [htext])) (chosenTag_of_tagFor filled.draft chosen) awaits
  | run can made =>
    simp only [canRun, beq_iff_eq] at can
    obtain ⟨d, text, result, later, filled, imaged, holds, _⟩ := ho.of_built (by simp [can])
    exact .running rfl ⟨filled.draft, filled.document⟩ (imaged.grow (by simp [Event.request?]))
      ⟨holds.tag, holds.logs⟩ (asked later _ rfl) (suits_of_runRequest filled.draft holds.tag made)
      awaits

theorem count (hm : m.Inv) (ho : Origin h m) {w : Waiting} {move : Move} {value : Value}
    {log : List LogEntry} (hw : w ∈ m.current)
    (hc : Counts m.pipeline w.number e w.task move value) :
    Origin (h ++ [⟨m, e, m.conclude w move value log⟩]) (m.conclude w move value log).machine := by
  have hstage := (Machine.current_eq_singleton hm hw).2
  have answered : ∀ later, Answered (later ++ [⟨m, e, m.conclude w move value log⟩]) w.number e [] :=
    fun later => ⟨_, happened_last later _, rfl, _, rfl⟩
  have quiet : e.request? ≠ some .generate := by
    simp [Event.request?_of_answers? hc.answers?]
  obtain ⟨number, task, token⟩ := w
  cases hc with
  | generated text =>
    cases ho with
    | generating stage draft asked undisturbed awaits =>
      have hn := awaits _ hw
      subst hn
      exact .ready (by simp [Machine.conclude, enter]) ⟨draft, rfl⟩
        ⟨_, _, asked.grow _, undisturbed.grow quiet, answered _⟩
    | _ => simp_all [Task.stage]
  | notGenerated f => exact .blank (by simp [Machine.conclude, enter])
  | built result =>
    cases ho with
    | building stage filled generated asked chosen awaits =>
      have hn := awaits _ hw
      subst hn
      have hlogs : m.pipeline.logs = [] := hm.coherent.logs (by simp [stage])
      exact .built (by simp [Machine.conclude, enter]) ⟨filled.draft, filled.document⟩
        ⟨_, _, _, _, _, generated.grow quiet, asked.grow _, chosen, answered _⟩
        ⟨rfl, by simp [Machine.conclude, enter, hlogs]⟩
    | _ => simp_all [Task.stage]
  | notBuilt f =>
    cases ho with
    | building stage filled generated asked chosen awaits =>
      exact .ready (by simp [Machine.conclude, enter]) ⟨filled.draft, filled.document⟩
        (generated.grow quiet)
    | _ => simp_all [Task.stage]
  | ran id =>
    cases ho with
    | running stage filled imaged holds asked suits awaits =>
      have hn := awaits _ hw
      subst hn
      exact .ran rfl ⟨filled.draft, filled.document⟩ (imaged.grow quiet) ⟨holds.tag, holds.logs⟩
        ⟨_, _, _, _, _, _, asked.grow _, suits, answered _⟩ rfl
    | _ => simp_all [Task.stage]
  | notRan f =>
    obtain ⟨d, text, result, later, filled, imaged, holds, _⟩ :=
      ho.of_built (by simp [hstage, Task.stage])
    exact .built (by simp [Machine.conclude, enter]) ⟨filled.draft, filled.document⟩
      (imaged.grow quiet) ⟨holds.tag, holds.logs⟩

theorem reacts (hm : m.Inv) (ho : Origin h m) (hr : Machine.Reacts m e r) :
    Origin (h ++ [⟨m, e, r⟩]) r.machine := by
  cases hr with
  | issue granted => exact ho.issue hm granted
  | refuse asked closed =>
    refine ho.grow ?_ rfl fun _ hw => hw
    intro hgenerate
    rw [asked, Option.some.injEq] at hgenerate
    simp [hgenerate, admits] at closed
  | fail precluded =>
    refine ho.grow ?_ rfl ?_
    · cases precluded <;> simp [Event.request?]
    · rw [Machine.current_fail hm precluded.awaited?]
      simp
  | count log waits counts => exact ho.count hm waits counts
  | supersede log waits late answers =>
    refine ho.grow (by simp [Event.request?_of_answers? answers]) rfl ?_
    rw [Machine.current_supersede hm.tidy waits late]
    exact fun _ hw => hw
  | ignore answers missing =>
    exact ho.grow (by simp [Event.request?_of_answers? answers]) rfl fun _ hw => hw

theorem after (es : List Event) :
    Origin (Machine.initial.steps es) (Machine.initial.after es) := by
  induction es using List.reverseRecOn with
  | nil => exact .blank (by simp [Machine.after, Machine.initial, Pipeline.initial])
  | append_singleton es e ih =>
    rw [Machine.steps_append_singleton, Machine.after_append_singleton]
    exact ih.reacts (Machine.inv_initial.after es) (Machine.reacts _ e)

end Origin

/-- The draft is that of the latest generation, the build file is the answer to it with one line
break at its end, and tag and output are the result of a build of this very build file that was
asked for after it; a container at hand answers a run of this very image on the ports of the
draft. -/
def Traced (h : List Step) (p : Pipeline) : Prop :=
  ∃ d text result later,
    p.draft = some d ∧
    p.document.map Dockerfile.text = some (Text.withOneBreak text) ∧
    p.tag = some result.tag ∧
    p.logs = result.logs ∧
    Imaged h d text result later ∧
    (p.stage = .ran → ∃ id, p.containerId = some id ∧ Started later d result.tag id)

/-- Whenever an image is at hand, all results at hand are traced to the latest draft, in whatever
order drafts, builds and runs were asked for and answered. -/
theorem traced_of_built (es : List Event)
    (hs : (Machine.initial.after es).pipeline.stage ∈ [Stage.built, .running, .ran, .runError]) :
    Traced (Machine.initial.steps es) (Machine.initial.after es).pipeline := by
  obtain ⟨d, text, result, later, filled, imaged, holds, started⟩ := (Origin.after es).of_built hs
  refine ⟨d, text, result, later, filled.draft, ?_, holds.tag, holds.logs, imaged, started⟩
  simp [filled.document, Dockerfile.text_ofText]

/-- A build of a first draft is answered after a second draft came up, and the second one is built
and run. -/
def overtakenRun : List Event :=
  let draft (port : Int) : Draft :=
    ⟨.null, ⟨.text "debian", .text "bookworm"⟩, [],
      some ⟨true, .integer port, .text "secret", .null⟩⟩
  [.generate (draft 2222), .generated 0 (.ok "FROM old\n"), .build (some "old"),
    .generate (draft 2223), .built 1 (.ok ⟨"old", [.text "stale"]⟩),
    .generated 2 (.ok "FROM new\n\n"), .build (some "new"), .built 3 (.ok ⟨"new:1", []⟩),
    .run ⟨some "box", []⟩ "0123abcd", .ran 4 (.ok "c0ffee")]

theorem traced_overtakenRun :
    (Machine.initial.after overtakenRun).pipeline.stage ∈
        [Stage.built, .running, .ran, .runError] ∧
      Traced (Machine.initial.steps overtakenRun) (Machine.initial.after overtakenRun).pipeline :=
  ⟨by decide, traced_of_built overtakenRun (by decide)⟩

end Pipeline

end DevEnv
