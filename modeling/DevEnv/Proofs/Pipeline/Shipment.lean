import DevEnv.Proofs.Daemon.Escape
import DevEnv.Proofs.Pipeline.Provenance
import DevEnv.Proofs.Pipeline.Superseded

/-!
What the daemon gets to build from. The text of a build is the answer to the latest generation with one
line break at its end; a text that the assembly makes of a draft ends in one break as it is, so that the
daemon gets the assembled build file to the byte, whatever breaks there are inside its quoted secrets.
-/

namespace DevEnv

set_option autoImplicit false

open Outcome

/-! ### Assembled build files -/

namespace Dockerfile

theorem closed_accessLines {family : Family} {ssh : Option Draft.Ssh} {lines : List String}
    (h : accessLines family ssh = .ok lines) : Closed lines := by
  have shell : Closed ["# Set default command", shellCommand] :=
    ⟨["# Set default command"], shellCommand, ']', rfl, by decide, by decide⟩
  have server : Closed ["# Set default command", sshdCommand] :=
    ⟨["# Set default command"], sshdCommand, ']', rfl, by decide, by decide⟩
  cases ssh with
  | none => exact Except.ok.inj h ▸ shell
  | some a =>
    simp only [accessLines] at h
    split at h
    · obtain ⟨block, -, rfl⟩ := map_eq_ok_iff.mp h
      exact server.append block
    · exact Except.ok.inj h ▸ shell

end Dockerfile

namespace Draft

open Dockerfile

theorem closed_of_assemble {d : Draft} {file : Dockerfile} (h : d.assemble = .ok file) :
    Closed file.lines := by
  obtain ⟨base, -, h⟩ := bind_eq_ok_iff.mp h
  obtain ⟨blocks, -, h⟩ := bind_eq_ok_iff.mp h
  obtain ⟨access, haccess, h⟩ := bind_eq_ok_iff.mp h
  obtain rfl := Except.ok.inj h
  exact (closed_accessLines haccess).append _

theorem generate_eq_ok_iff {d : Draft} {text : String} :
    d.generate.2 = .ok text ↔
      d.incompleteness? = none ∧ ∃ file, d.assemble = .ok file ∧ text = file.text := by
  unfold generate
  split
  · rename_i failure lacks
    simp [lacks]
  · rename_i complete
    simp only [complete, true_and, assembled, map_eq_ok_iff, mapError_eq_ok_iff]
    exact exists_congr fun file => and_congr_right fun _ => eq_comm

end Draft

/-! ### Orders of a client -/

namespace Daemon

variable {σ α : Type}

def Operation.beside (op : Operation σ α) : Operation (σ × List BuildOrder) α := fun t =>
  ((op t.1).1, (op t.1).2, t.2)

/-- The client with a list of the build orders that it has got. -/
def Client.recording (client : Client σ) : Client (σ × List BuildOrder) where
  connect := client.connect.beside
  ping := client.ping.beside
  build order := fun t => ((client.build order t.1).1, (client.build order t.1).2, t.2 ++ [order])
  run order := (client.run order).beside
  list all := (client.list all).beside
  get id := (client.get id).beside
  start := client.start.beside
  stop := client.stop.beside
  remove force := (client.remove force).beside

/-- The build orders that the client gets when an engine builds from a text. -/
def Client.orders (client : Client σ) (connected : Bool) (standIns : Text.StandIns)
    (text tag : String) (s : σ) : List BuildOrder :=
  (client.recording.reach connected (client.recording.buildText standIns text tag) (s, [])).2.2

/-- The engine is connected, or connects now. -/
def Client.Connects (client : Client σ) (connected : Bool) (s : σ) : Prop :=
  connected = true ∨ (client.open s).1 = .ok ()

section Recording
variable (client : Client σ) (connected : Bool) (standIns : Text.StandIns) (text tag : String)
  (s : σ) (got : List BuildOrder)

theorem service_beside {β : Type} (op : Operation σ α) (onFault : Fault → Except Escape β)
    (onResult : α → Except Escape β) :
    op.beside.service onFault onResult (s, got) =
      ((op.service onFault onResult s).1, (op.service onFault onResult s).2, got) := by
  simp only [Operation.service, Operation.beside]
  rcases op s with ⟨_ | _, t⟩ <;> rfl

theorem open_recording :
    client.recording.open (s, got) = ((client.open s).1, (client.open s).2, got) := by
  simp only [Client.open, Service.andThen, Client.recording, service_beside]
  rcases client.connect.service explainConnect Except.ok s with ⟨_ | _, t⟩
  · rfl
  · exact service_beside t got client.ping explainConnect Except.ok

theorem buildText_recording_of_broken (broken : standIns.occurIn text = true) :
    client.recording.buildText standIns text tag (s, got) =
      ((client.buildText standIns text tag s).1, (client.buildText standIns text tag s).2, got) := by
  simp only [Client.buildText, broken, if_true]
  rfl

theorem buildText_recording (whole : standIns.occurIn text = false) :
    client.recording.buildText standIns text tag (s, got) =
      ((client.buildText standIns text tag s).1, (client.buildText standIns text tag s).2,
        got ++ [⟨text, tag, false, true⟩]) := by
  simp only [Client.buildText, whole, Bool.false_eq_true, if_false, Client.buildImage,
    Operation.service, Client.recording]
  rcases client.build ⟨text, tag, false, true⟩ s with ⟨_ | _, t⟩ <;> rfl

/-- An engine that cannot connect does not get to the client's own operation. -/
theorem reach_recording {α : Type} (service : Service (σ × List BuildOrder) α) :
    (client.Connects connected s → ∃ t, client.recording.reach connected service (s, got) =
      service (t, got)) ∧
    (¬ client.Connects connected s →
      (client.recording.reach connected service (s, got)).2.2 = got) := by
  cases connected with
  | true => exact ⟨fun _ => ⟨s, rfl⟩, fun none => absurd (.inl rfl) none⟩
  | false =>
    simp only [Client.reach, Bool.false_eq_true, if_false, Service.andThen, open_recording,
      Client.Connects, false_or]
    rcases client.open s with ⟨e | u, t⟩
    · refine ⟨fun connects => ?_, fun _ => rfl⟩
      cases connects
    · exact ⟨fun _ => ⟨t, rfl⟩, fun none => absurd rfl none⟩

/-- The client gets one order if the engine connects and the text can be sent, and else none. -/
theorem orders_eq :
    (client.Connects connected s ∧ standIns.occurIn text = false ∧
      client.orders connected standIns text tag s = [⟨text, tag, false, true⟩]) ∨
    (¬ (client.Connects connected s ∧ standIns.occurIn text = false) ∧
      client.orders connected standIns text tag s = []) := by
  obtain ⟨reaches, stops⟩ := reach_recording client connected s []
    (client.recording.buildText standIns text tag)
  by_cases connects : client.Connects connected s
  · obtain ⟨t, reached⟩ := reaches connects
    rw [Client.orders, reached]
    cases broken : standIns.occurIn text with
    | true =>
      rw [buildText_recording_of_broken client standIns text tag t [] broken]
      exact .inr ⟨by simp, rfl⟩
    | false =>
      rw [buildText_recording client standIns text tag t [] broken]
      exact .inl ⟨connects, rfl, rfl⟩
  · exact .inr ⟨fun both => connects both.1, stops connects⟩

end Recording

end Daemon

/-! ### Builds of a run -/

namespace Pipeline

open Daemon

section Builds
variable {m : Machine} {e : Event} {number : Nat} {text tag : String}

/-- A machine that builds is at a stage where it can, and builds from the build file at hand. -/
theorem eq_documentText_of_called
    (called : (m.react e).called = some (number, .build text tag)) :
    m.pipeline.canBuild = true ∧ text = m.pipeline.documentText := by
  have reacts := m.reacts e
  generalize m.react e = r at reacts called
  cases reacts with
  | issue granted =>
    have call := (Prod.mk.inj (Option.some.inj called)).2
    cases granted with
    | build can => exact ⟨can, (Call.build.inj call).1.symm⟩
    | generate | run => cases call
  | refuse | fail | count | supersede | ignore => cases called

/-- The text of a build is the answer to the latest generation, but for the breaks at its end. -/
theorem generated_of_called {es : List Event}
    (called : ((Machine.initial.after es).react e).called = some (number, .build text tag)) :
    ∃ d answer later, (Machine.initial.after es).pipeline.draft = some d ∧
      Generated (Machine.initial.steps es) d answer later ∧ text = Text.withOneBreak answer := by
  obtain ⟨can, rfl⟩ := eq_documentText_of_called called
  simp only [canBuild, Bool.or_eq_true, beq_iff_eq] at can
  obtain ⟨d, answer, later, filled, generated⟩ := (Origin.after es).of_ready can
  refine ⟨d, answer, later, filled.draft, generated, ?_⟩
  simp [documentText, filled.document, Dockerfile.text_ofText]

end Builds

/-- The engine compiles the draft to this file, and whatever order a client gets in a build from the
text brings this one file, to the byte. -/
def Ships (d : Draft) (text tag : String) : Prop :=
  ∃ file, d.assemble = .ok file ∧ text = file.text ∧
    ∀ (σ : Type) (client : Client σ) connected standIns s,
      ∀ order ∈ client.orders connected standIns text tag s,
        order.tag = tag ∧ order.context = [⟨"Dockerfile", 0o644, file.text.toUTF8⟩]

theorem ships_of_generate {d : Draft} {answer : String} (h : d.generate.2 = .ok answer)
    (tag : String) : Ships d (Text.withOneBreak answer) tag := by
  obtain ⟨-, file, assembled, rfl⟩ := Draft.generate_eq_ok_iff.mp h
  have whole : file.text = Text.withOneBreak file.text :=
    (Dockerfile.endsOnce_text (Draft.closed_of_assemble assembled)).eq
  refine ⟨file, assembled, whole.symm, ?_⟩
  intro σ client connected standIns s order received
  rcases orders_eq client connected standIns (Text.withOneBreak file.text) tag s with
    ⟨-, -, orders⟩ | ⟨-, orders⟩
  · rw [orders, ← whole] at received
    obtain rfl := List.mem_singleton.mp received
    exact ⟨rfl, rfl⟩
  · rw [orders] at received
    cases received

namespace Machine
variable {m : Machine}

theorem react_build_of_ready (ready : m.pipeline.stage = .ready) {tag : String} (named : tag ≠ "") :
    (m.react (.build (some tag))).called =
      some (m.issued, .build m.pipeline.documentText tag) := by
  have can : m.pipeline.canBuild = true := by simp [canBuild, ready]
  have chosen : m.pipeline.tagFor (some tag) = .ok tag := by simp [tagFor, givenOr, named]
  rw [react_of_grants (.build can chosen)]
  rfl

/-- A draft comes up, and the engine answers with a text. -/
theorem react_generated (h : m.Inv) (d : Draft) (answer : String) :
    let next := (m.react (.generate d)).machine
    let later := (next.react (.generated m.issued (.ok answer))).machine
    later.pipeline.stage = .ready ∧ later.issued = m.issued + 1 ∧
      later.pipeline.documentText = Text.withOneBreak answer := by
  intro next later
  have waits : ⟨m.issued, .generate, next.pipeline.tokens.latest .generate⟩ ∈ next.current :=
    current_issue h (.generate d) ▸ List.mem_singleton_self _
  obtain ⟨log, concludes⟩ := react_of_counts (find?_of_mem_current (h.react _).tidy waits) waits
    (.generated answer)
  have same : later = _ := congrArg Reaction.machine concludes
  rw [same]
  refine ⟨rfl, rfl, ?_⟩
  rw [← Dockerfile.text_ofText]
  rfl

end Machine

/-- What builds are given after a run, whatever engine has answered in it. -/
structure Delivers (es : List Event) : Prop where
  /-- A build is given the answer to the latest generation with one line break in the place of all
  those at its end. If the engine compiled that answer, the daemon gets the compiled file. -/
  given : ∀ e number text tag,
    ((Machine.initial.after es).react e).called = some (number, .build text tag) →
      ∃ d answer later, (Machine.initial.after es).pipeline.draft = some d ∧
        Generated (Machine.initial.steps es) d answer later ∧ Text.EndsOnce answer text ∧
        (d.generate.2 = .ok answer → Ships d text tag)
  /-- A draft that the engine compiles can be built at once. -/
  follows : ∀ d answer tag, d.generate.2 = .ok answer → tag ≠ "" →
    ∃ file, d.assemble = .ok file ∧ Ships d file.text tag ∧
      ∃ number, ((Machine.initial.after (es ++ [.generate d,
          .generated (Machine.initial.after es).issued (.ok answer)])).react
        (.build (some tag))).called = some (number, .build file.text tag)

theorem built_as_generated (es : List Event) : Delivers es where
  given e number text tag called := by
    obtain ⟨d, answer, later, draft, generated, rfl⟩ := generated_of_called called
    exact ⟨d, answer, later, draft, generated, Text.endsOnce_withOneBreak answer,
      fun compiled => ships_of_generate compiled tag⟩
  follows d answer tag compiled named := by
    have ships := ships_of_generate compiled tag
    have ⟨file, assembled, whole, _⟩ := ships
    rw [whole] at ships
    refine ⟨file, assembled, ships, ?_⟩
    obtain ⟨ready, -, document⟩ := Machine.react_generated (Machine.inv_initial.after es) d answer
    rw [List.append_cons, Machine.after_append_singleton, Machine.after_append_singleton,
      Machine.react_build_of_ready ready named, document, whole]
    exact ⟨_, rfl⟩

/-- A draft whose password goes on after a line break, and ends in one. -/
example :
    let d : Draft := ⟨.null, ⟨.text "debian", .text "bookworm"⟩, [⟨.text "rust", .text "stable"⟩],
      some ⟨true, .integer 2222, .text "secret\nUSER x\n", .null⟩⟩
    ∃ answer, d.generate.2 = .ok answer := ⟨_, rfl⟩

end Pipeline

end DevEnv
