import DevEnv.Proofs.CommandLine.Course
import DevEnv.Rehearsal.Daemon

/-!
The calls that a client gets on the way to an image and a container. No call of a step is made once an
earlier one has failed, and none is made twice.
-/

namespace DevEnv

set_option autoImplicit false

namespace Daemon

variable {σ α β ε : Type}

/-- The operation, with its call written down. -/
def Operation.logged (call : Call) (op : Operation σ α) : Operation (σ × List Call) α := fun t =>
  ((op t.1).1, (op t.1).2, t.2 ++ [call])

/-- The client with a list of the calls that it has got. -/
def Client.logging (client : Client σ) : Client (σ × List Call) where
  connect := client.connect.logged .connect
  ping := client.ping.logged .ping
  build order := (client.build order).logged (.build order)
  run order := (client.run order).logged (.run order)
  list all := (client.list all).logged (.list all)
  get id := (client.get id).logged (.get id)
  start := client.start.logged .start
  stop := client.stop.logged .stop
  remove force := (client.remove force).logged (.remove force)

/-- The logged way is the plain one, and makes the first of these calls; it makes all of them if it
comes to a result. -/
def Logs (plain : σ → Except ε α × σ) (logged : σ × List Call → Except ε α × σ × List Call)
    (whole : List Call) : Prop :=
  ∀ s got, ∃ calls, logged (s, got) = ((plain s).1, (plain s).2, got ++ calls) ∧ calls <+: whole ∧
    ∀ a, (plain s).1 = .ok a → calls = whole

theorem Logs.andThen {first : Service σ α} {next : α → Service σ β}
    {first' : Service (σ × List Call) α} {next' : α → Service (σ × List Call) β}
    {whole whole' : List Call} (h : Logs first first' whole)
    (h' : ∀ a, Logs (next a) (next' a) whole') :
    Logs (first.andThen next) (first'.andThen next') (whole ++ whole') := by
  intro s got
  obtain ⟨calls, logged, beginning, complete⟩ := h s got
  simp only [Service.andThen, logged]
  -- Where the first part fails, the second is not reached, and the calls so far are all.
  rcases came : first s with ⟨e | a, u⟩
  · refine ⟨calls, rfl, beginning.trans (List.prefix_append whole whole'), fun b h => ?_⟩
    cases h
  · have result : (first s).1 = .ok a := by rw [came]
    obtain ⟨calls', logged', beginning', complete'⟩ := h' a u (got ++ calls)
    obtain rfl := complete a result
    refine ⟨calls ++ calls', ?_, (List.prefix_append_right_inj calls).mpr beginning', ?_⟩
    · rw [← List.append_assoc]
      exact logged'
    · intro b done
      rw [complete' b done]

section Services
variable (client : Client σ)

/-- A container is asked for once. -/
theorem calls_runContainer (request : RunRequest) (s : σ) :
    (client.logging.runContainer request (s, [])).2.2 = [.run (.ofRequest request)] := by
  simp only [Client.runContainer, Operation.service, Client.logging, Operation.logged]
  rcases client.run (.ofRequest request) s with ⟨_ | _, t⟩ <;> rfl

end Services

end Daemon

namespace CommandLine

open Daemon

variable {σ α β : Type}

section Courses
variable (client : Client σ) (standIns : Text.StandIns) (e : Environment) (tag : String)

/-- The calls of a build, and those of a run. -/
def buildCalls (e : Environment) (tag : String) : List Daemon.Call :=
  [.connect, .ping, .build ⟨e.compiled.text, tag, false, true⟩]

def runCalls (request : RunRequest) : List Daemon.Call := [.run (.ofRequest request)]

theorem run_file_toDraft (s : σ) : (Course.file e).run.run s =
    if e.languages = [] then (.error ⟨.generate, .failed (.engine
      (.incomplete "At least one language is required"))⟩, s)
    else (.ok e.compiled.text, s) := by
  rw [Course.run_file, generate_toDraft]
  split <;> rfl

theorem run_image_of_some (some : e.languages ≠ []) (s : σ) :
    (Course.image client standIns e tag).run.run s =
      (Course.step .build
        (client.reach false (client.buildText standIns e.compiled.text tag))).run.run s := by
  have made := run_file_toDraft e s
  rw [if_neg some] at made
  exact run_bind_of_ok made

/-- The calls of a course: none of a later step once a step has failed. -/
structure Orderly (way : Except Stop α) (built started calls : List Daemon.Call) : Prop where
  done : ∀ a, way = .ok a → calls = built ++ started
  notGenerated : ∀ escape, way = .error ⟨.generate, escape⟩ → calls = []
  notBuilt : ∀ escape, way = .error ⟨.build, escape⟩ → calls <+: built
  notStarted : ∀ escape, way = .error ⟨.run, escape⟩ → built <+: calls ∧ calls <+: built ++ started

end Courses

end CommandLine

end DevEnv
