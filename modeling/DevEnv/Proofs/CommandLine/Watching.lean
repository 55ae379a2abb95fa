import DevEnv.Proofs.CommandLine.Course
import DevEnv.Proofs.CommandLine.Reading
import DevEnv.Proofs.CommandLine.Refinement
import DevEnv.Proofs.Daemon.Output
import DevEnv.Proofs.Outcome
import DevEnv.Proofs.Roster.History
import DevEnv.Proofs.Roster.Watched

/-!
The watch of containers, from the daemon to the screen. However polls and refreshes take turns, a refresh
shows what is due after what has been answered and shown before.
-/

namespace DevEnv

set_option autoImplicit false

variable {σ : Type} {client : Daemon.Client σ} {state : StateFilter}

namespace Daemon

/-! ### Messages -/

def Worded (e : EngineFailure) : Prop := (Failure.engine e).describe.isEmpty = false

theorem worded_unreachable (m : String) : Worded (.unreachable m) := by
  change Failure.noAnswer.isEmpty = false
  decide

theorem worded_docker (first second : String) (status : Option Int) :
    Worded (.docker (first ++ ": " ++ second) status) := by
  have filled : first ++ ": " ++ second ≠ "" := by
    simp
  exact Bool.eq_false_iff.mpr fun empty => filled (String.isEmpty_iff.mp empty)

theorem worded_connectionRefusal (fault : Fault) : Worded (connectionRefusal fault) := by
  unfold connectionRefusal
  split
  · exact worded_unreachable _
  · exact worded_docker "Failed to connect to Docker" _ none

theorem worded_of_explain {α : Type} {failed unexpected : String} {fault : Fault}
    {e : EngineFailure} (h : (explain failed unexpected fault : Except Escape α) = refuse e) :
    Worded e := by
  cases fault with
  | interrupt => cases h
  | connection => exact refuse_inj h ▸ worded_unreachable _
  | _ => exact refuse_inj h ▸ worded_docker _ _ _

theorem worded_of_containersOf {payloads : List Json} {e : EngineFailure}
    (h : containersOf payloads = refuse e) : Worded e := by
  unfold containersOf at h
  split at h
  · cases h
  · exact refuse_inj h ▸ worded_docker "Unexpected error listing containers" _ _

theorem worded_of_reach {connected all : Bool} {s : σ} {e : EngineFailure}
    (h : (client.reach connected (client.listContainers all) s).1 = refuse e) : Worded e := by
  rcases explained_or_served h with ⟨fault, explained⟩ | ⟨t, -, served⟩
  · exact eq_connectionRefusal explained ▸ worded_connectionRefusal fault
  · rcases raised_or_unused served with ⟨fault, -, explained⟩ | ⟨payloads, -, unread⟩
    · exact worded_of_explain explained
    · exact worded_of_containersOf unread

/-- The daemon answers the polls of these turns in this way, whenever they come up. -/
inductive Happens (client : Client σ) : Bool → σ → List Watching.Turn → Prop
  | nil {connected : Bool} {s : σ} : Happens client connected s []
  | polled {connected : Bool} {s : σ} {answer : Watching.Answer} {turns : List Watching.Turn}
    (came : (client.reach connected (client.listContainers true) s).1 =
      answer.mapError fun e => .failed (.engine e))
    (rest : Happens client (connected || (client.open s).1.isOk)
      (client.reach connected (client.listContainers true) s).2 turns) :
    Happens client connected s (.polled answer :: turns)
  | refreshed {connected : Bool} {s : σ} {turns : List Watching.Turn}
    (rest : Happens client connected s turns) : Happens client connected s (.refreshed :: turns)

end Daemon

namespace Watching

/-! ### What is printed -/

def listText (cs : List Container) : String :=
  if cs.isEmpty then "No containers found" else (Container.table cs).toOption.getD ""

def Sight.out : Sight → String
  | .list cs => Text.withoutCodes (listText cs ++ "\n") ++ Text.withoutCodes ("" ++ "\n")
  | _ => ""

def Sight.err : Sight → String
  | .failure message => Text.withoutCodes ("Error: " ++ message ++ "\n")
  | _ => ""

/-- Moments of creation have dates. -/
def Dated (cs : List Container) : Prop := ∀ c ∈ cs, ∃ text, Timestamp.display c.created = .ok text

theorem table_of_dated {cs : List Container} (h : Dated cs) :
    ∃ text, Container.table cs = .ok text := by
  have rows : ∀ c ∈ cs, ∃ row, Container.row c = .ok row := by
    intro c hc
    obtain ⟨text, shown⟩ := h c hc
    rw [Container.row, shown]
    exact ⟨_, rfl⟩
  obtain ⟨rows, made⟩ := Outcome.exists_mapM_iff.mpr rows
  rw [Container.table, made]
  exact ⟨_, rfl⟩

def Printable (state : StateFilter) (turns : List Turn) : Prop :=
  ∀ cs, .polled (.ok cs) ∈ turns → Dated (Container.inState state cs)

theorem Printable.standing {past : List Turn} (h : Printable state past) :
    Dated (Container.inState state (standing past)) := by
  unfold Watching.standing
  cases last : ((past.filterMap Turn.answer?).filterMap Except.toOption).getLast? with
  | none => exact nofun
  | some cs =>
    have answered := List.mem_of_getLast? last
    simp only [List.mem_filterMap] at answered
    obtain ⟨answer, ⟨turn, there, polled⟩, listed⟩ := answered
    cases turn with
    | refreshed => cases polled
    | polled answer' =>
      obtain rfl := Option.some.inj polled
      cases answer' with
      | error e => cases listed
      | ok ds =>
        obtain rfl := Option.some.inj listed
        exact h ds there

end Watching

namespace CommandLine

open Daemon Watching

theorem run_printTable {cs : List Container} (h : Dated cs) (t : Session σ) :
    (printTable cs).run.run t =
      (.ok (), { t with out := t.out ++ Text.withoutCodes (listText cs ++ "\n") }) := by
  rw [printTable, listText]
  split
  · exact run_echo _ t
  · obtain ⟨text, made⟩ := table_of_dated h
    rw [made]
    exact run_echo _ t

/-! ### Turns -/

inductive Tick
  | poll
  | refresh

def Tick.of : Turn → Tick
  | .polled _ => .poll
  | .refreshed => .refresh

def Watch.on (client : Client σ) (state : StateFilter) (w : Watch) : Tick → CommandM σ Watch
  | .poll => w.poll client
  | .refresh => w.show state

/-- The turns of a watch, in whatever order they come up. -/
def Watch.follow (client : Client σ) (state : StateFilter) (ticks : List Tick) (w : Watch) :
    CommandM σ Watch :=
  ticks.foldlM (Watch.on client state) w

def Watch.heard (w : Watch) (answer : Answer) : Watch :=
  { w with roster := w.roster.request.receive w.roster.request.token (answer.mapError .engine) }

def Session.sees (t : Session σ) (s : Sight) : Session σ :=
  { t with out := t.out ++ s.out, err := t.err ++ s.err }

theorem sees_failure (t : Session σ) (message : String) : t.sees (.failure message) =
    { t with err := t.err ++ Text.withoutCodes ("Error: " ++ message ++ "\n") } := by
  simp [Session.sees, Sight.out, Sight.err]

theorem sees_list (t : Session σ) (cs : List Container) : t.sees (.list cs) =
    { t with out := t.out ++ Text.withoutCodes (listText cs ++ "\n") ++
      Text.withoutCodes ("" ++ "\n") } := by
  simp [Session.sees, Sight.out, Sight.err, String.append_assoc]

theorem sees_unchanged (t : Session σ) : t.sees .unchanged = t := by
  simp [Session.sees, Sight.out, Sight.err]

/-- The watch after these turns and sights. -/
structure Keeps (past : List Turn) (seen : List Sight) (w : Watch) : Prop where
  snapshot : w.roster.snapshot = standing past
  failure : ∀ e, latest? past = some (.error e) → w.error? = some (Failure.engine e).describe
  calm : Calm past → w.error? = none
  printed : w.printed = shown? seen

theorem keeps_initial : Keeps [] [] .initial where
  snapshot := rfl
  failure := nofun
  calm _ := rfl
  printed := rfl

section Turns
variable {past : List Turn} {seen : List Sight} {w : Watch} {t : Session σ}

theorem Keeps.heard (h : Keeps past seen w) {answer : Answer}
    (worded : ∀ e, answer = .error e → Worded e) :
    Keeps (past ++ [.polled answer]) seen (w.heard answer) := by
  cases answer with
  | ok cs =>
    have heard := Roster.receive_latest w.roster.request (.ok cs)
    refine ⟨?_, fun e failed => ?_, fun _ => ?_, h.printed⟩
    · rw [standing_ok]
      exact congrArg Roster.snapshot heard
    · rw [latest?_polled] at failed
      cases failed
    · exact congrArg (fun r => (Watch.mk r w.printed).error?) heard
  | error e =>
    have heard := Roster.receive_latest w.roster.request (.error (.engine e))
    refine ⟨?_, fun e' failed => ?_, fun calm => ?_, h.printed⟩
    · rw [standing_error]
      exact (congrArg Roster.snapshot heard).trans h.snapshot
    · rw [latest?_polled] at failed
      obtain rfl := Except.error.inj (Option.some.inj failed)
      refine (congrArg (fun r => (Watch.mk r w.printed).error?) heard).trans ?_
      exact Option.filter_some_pos (by rw [worded e rfl]; rfl)
    · exact absurd (latest?_polled past _) (calm e)

theorem run_poll {answer : Answer} (w : Watch)
    (came : (client.reach t.connected (client.listContainers true) t.daemon).1 =
      answer.mapError fun e => .failed (.engine e)) :
    ∃ log, (w.poll client).run.run t = (.ok (w.heard answer), { t with
      daemon := (client.reach t.connected (client.listContainers true) t.daemon).2
      connected := t.opens client
      log := log }) := by
  have asked := run_request client (client.listContainers true) t
  rw [came] at asked
  let u : Session σ := { t with
    daemon := (client.reach t.connected (client.listContainers true) t.daemon).2
    connected := t.opens client }
  have fresh : (refresh client w.roster).run.run t =
      (.ok ((w.heard answer).roster, answer.mapError .engine), u) := by
    cases answer <;> exact run_bind_of_ok asked
  rw [Watch.poll, run_bind_of_ok fresh]
  cases answer with
  | ok cs => exact ⟨_, rfl⟩
  | error e => exact ⟨_, rfl⟩

theorem Keeps.show (h : Keeps past seen w) (dated : Dated (Container.inState state (standing past)))
    (t : Session σ) :
    ∃ s v, (w.show state).run.run t = (.ok v, t.sees s) ∧ Due state past seen s ∧
      Keeps (past ++ [.refreshed]) (seen ++ [s]) v := by
  -- A refresh without a list leaves the watch as it is.
  have still : ∀ s : Sight, s.list? = none → Keeps (past ++ [.refreshed]) (seen ++ [s]) w := by
    intro s none
    refine ⟨?_, ?_, ?_, ?_⟩
    · rw [standing_refreshed, h.snapshot]
    · rw [latest?_refreshed]
      exact h.failure
    · rw [Calm, latest?_refreshed]
      exact h.calm
    · rw [shown?_of_list?_none seen none, h.printed]
  unfold Watch.show
  by_cases failed : ∃ e, latest? past = some (.error e)
  · obtain ⟨e, failed⟩ := failed
    refine ⟨.failure (Failure.engine e).describe, w, ?_, .failure failed, still _ rfl⟩
    rw [h.failure e failed, sees_failure]
    rfl
  · have calm : Calm past := fun e same => failed ⟨e, same⟩
    rw [h.calm calm, h.printed, h.snapshot]
    by_cases same : shown? seen = some (Container.inState state (standing past))
    · refine ⟨.unchanged, w, ?_, .unchanged calm same, still _ rfl⟩
      dsimp only
      rw [if_pos same, sees_unchanged]
      rfl
    · refine ⟨.list (Container.inState state (standing past)),
        ⟨w.roster, some (Container.inState state (standing past))⟩, ?_, .list calm same, ?_⟩
      · dsimp only
        rw [if_neg same, run_bind_of_ok (run_printTable dated _), run_bind_of_ok (run_echo _ _),
          sees_list]
        rfl
      · obtain ⟨snapshot, failure, calm, -⟩ := still .unchanged rfl
        exact ⟨snapshot, failure, calm, (shown?_list seen _).symm⟩

structure Prints (t u : Session σ) (sights : List Sight) : Prop where
  out : u.out = t.out ++ String.join (sights.map Sight.out)
  err : u.err = t.err ++ String.join (sights.map Sight.err)

theorem Prints.cons {u : Session σ} {s : Sight} {sights : List Sight}
    (h : Prints (t.sees s) u sights) : Prints t u (s :: sights) where
  out := by
    rw [h.out, List.map_cons, String.join_cons, ← String.append_assoc]
    rfl
  err := by
    rw [h.err, List.map_cons, String.join_cons, ← String.append_assoc]
    rfl

theorem follow_cons (client : Client σ) (state : StateFilter) (tick : Tick) (ticks : List Tick)
    (w : Watch) : Watch.follow client state (tick :: ticks) w =
      (w.on client state tick >>= Watch.follow client state ticks) := rfl

/-- However the turns come up, each refresh shows what is due. -/
theorem Keeps.follow {turns : List Turn} (happens : Happens client t.connected t.daemon turns)
    (h : Keeps past seen w) (watched : Watched state past seen)
    (printable : Printable state (past ++ turns)) :
    ∃ sights v u, (Watch.follow client state (turns.map Tick.of) w).run.run t = (.ok v, u) ∧
      Watched state (past ++ turns) (seen ++ sights) ∧ Prints t u sights := by
  -- The induction is on the turns still to come; what has been seen so far goes along with the watch.
  generalize linked : t.connected = connected at happens
  generalize stands : t.daemon = daemon at happens
  induction happens generalizing past seen w t with
  | nil =>
    refine ⟨[], w, t, rfl, ?_, ⟨String.append_empty.symm, String.append_empty.symm⟩⟩
    rwa [List.append_nil, List.append_nil]
  | @polled _ _ answer turns came rest ih =>
    subst linked stands
    have worded : ∀ e, answer = .error e → Worded e := by
      rintro e rfl
      exact worded_of_reach came
    obtain ⟨log, polled⟩ := run_poll w came
    rw [List.append_cons] at printable
    obtain ⟨sights, v, u, ran, later, prints⟩ := ih (h.heard worded) (watched.polled answer) printable
      (t := { t with
        daemon := (client.reach t.connected (client.listContainers true) t.daemon).2
        connected := t.opens client
        log := log }) rfl rfl
    refine ⟨sights, v, u, ?_, ?_, ⟨prints.out, prints.err⟩⟩
    · rw [List.map_cons, follow_cons]
      exact (run_bind_of_ok polled).trans ran
    · rwa [List.append_cons]
  | @refreshed _ _ turns rest ih =>
    have before : Printable state past := fun cs there => printable cs (List.mem_append_left _ there)
    obtain ⟨s, v, showed, due, keeps⟩ := h.show before.standing t
    rw [List.append_cons] at printable
    obtain ⟨sights, v', u, ran, later, prints⟩ :=
      ih keeps (watched.refreshed due) printable (t := t.sees s) linked stands
    refine ⟨s :: sights, v', u, ?_, ?_, prints.cons⟩
    · rw [List.map_cons, follow_cons]
      exact (run_bind_of_ok showed).trans ran
    · rwa [List.append_cons, List.append_cons seen]

end Turns

/-! ### The command -/

def paired (answers : List Answer) : List Turn :=
  answers.flatMap fun answer => [.polled answer, .refreshed]

/-- The turns of a watch whose polls are answered like this. Where no time passes between polls, the
screen is refreshed before the first one. -/
def turnsOf (waits : Bool) (answers : List Answer) : List Turn :=
  if waits then paired answers else .refreshed :: paired answers

def roundsOf (waits : Bool) (answers : List Answer) : Nat :=
  if waits then answers.length else answers.length + 1

theorem countP_paired (answers : List Answer) :
    (paired answers).countP Turn.isRefresh = answers.length := by
  induction answers with
  | nil => rfl
  | cons answer answers ih =>
    change List.countP _ (.polled answer :: .refreshed :: paired answers) = _
    rw [List.countP_cons_of_neg Bool.false_ne_true, List.countP_cons_of_pos rfl, ih, List.length_cons]

theorem countP_turnsOf (waits : Bool) (answers : List Answer) :
    (turnsOf waits answers).countP Turn.isRefresh = roundsOf waits answers := by
  cases waits with
  | true => exact countP_paired answers
  | false =>
    change List.countP _ (.refreshed :: paired answers) = answers.length + 1
    rw [List.countP_cons_of_pos rfl, countP_paired]

theorem rounds_eq (client : Client σ) (waits : Bool) (state : StateFilter) (answers : List Answer)
    (w : Watch) : Watch.rounds client waits state (roundsOf waits answers) w =
      (Watch.follow client state ((turnsOf waits answers).map Tick.of) w >>= fun _ => pure ()) := by
  cases waits with
  | true =>
    induction answers generalizing w with
    | nil => rfl
    | cons answer answers ih =>
      change Watch.rounds client true state (answers.length + 1) w =
        (Watch.follow client state (.poll :: .refresh :: (paired answers).map Tick.of) w >>= _)
      rw [follow_cons, bind_assoc, Watch.rounds, if_pos rfl]
      refine congrArg (w.poll client >>= ·) (funext fun v => ?_)
      rw [follow_cons, bind_assoc]
      exact congrArg (v.show state >>= ·) (funext ih)
  | false =>
    induction answers generalizing w with
    | nil =>
      change Watch.rounds client false state (0 + 1) w =
        (Watch.follow client state [.refresh] w >>= _)
      rw [follow_cons, bind_assoc, Watch.rounds, if_neg nofun]
      rfl
    | cons answer answers ih =>
      change Watch.rounds client false state (answers.length + 1 + 1) w =
        (Watch.follow client state (.refresh :: .poll :: .refresh :: (paired answers).map Tick.of) w
          >>= _)
      rw [follow_cons, bind_assoc, Watch.rounds, if_neg nofun]
      refine congrArg (w.show state >>= ·) (funext fun v => ?_)
      rw [if_neg (Nat.succ_ne_zero _), follow_cons, bind_assoc]
      exact congrArg (v.poll client >>= ·) (funext ih)

theorem run_watch {patience : Nat} {waits : Bool} {count : Int} {answers : List Answer}
    {w : Watch} {t u : Session σ} (positive : 1 ≤ count) (rounds : roundsOf waits answers = count.toNat)
    (ran : (Watch.follow client state ((turnsOf waits answers).map Tick.of) .initial).run.run t =
      (.ok w, u)) :
    (watch client patience waits count state).run.run t = (.ok (), u) := by
  have counted : (if count = 0 then patience else count.toNat) = roundsOf waits answers := by
    rw [if_neg (by omega), rounds]
  have ended : (Watch.rounds client waits state (roundsOf waits answers) .initial).run.run t =
      (.ok (), u) := by
    rw [rounds_eq, run_bind_of_ok ran]
    rfl
  rw [watch, counted, ExceptT.run_tryCatch, StateT.run_bind, ended]
  rfl

/-! ### Command lines -/

structure Displays (o : Outcome σ) (sights : List Sight) : Prop where
  exit : o.exit = 0
  crash : o.crash = none
  out : o.out = printed (String.join (sights.map Sight.out))
  err : o.err = printed (String.join (sights.map Sight.err))

theorem displays_of_prints {daemon : σ} {w : Workspace} {args : List String} {u : Session σ}
    {sights : List Sight} (h : Prints (.begin daemon w args) u sights) :
    Displays (.ofSession (.ok ()) u) sights := by
  rw [Outcome.ofSession_ok]
  exact ⟨rfl, rfl, congrArg printed (h.out.trans String.empty_append),
    congrArg printed (h.err.trans String.empty_append)⟩

section Words
variable {around : Surroundings} {text : String} {count : Int}

def countOption : OptionSpec := .single ["--count"] .integer

def intervalOption : OptionSpec := ⟨["--interval"], some .real, false, some intervalVariable⟩

theorem checked_state (state : StateFilter) :
    stateOption.checked around [state.name] = .ok [("--state", state.name)] := by
  cases state <;> rfl

theorem checked_interval (unset : around.valueOf? intervalVariable = none) :
    intervalOption.checked around (intervalOption.fromVariable around) = .ok [] := by
  have none : intervalOption.fromVariable around = [] := by
    simp [OptionSpec.fromVariable, intervalOption, unset]
  rw [none]
  rfl

theorem scan_watch (text : String) (state : StateFilter) :
    Command.watch.grammar.scan true ["--count", text, "--state", state.name] =
      .ok ⟨[(countOption, text), (stateOption, state.name)], []⟩ := by
  have ends : Command.watch.grammar.scan true [] = .ok ⟨[], []⟩ := rfl
  have filter := Grammar.scan_worded "--state" (by decide +kernel) (by decide) rfl
    (some state.name) ends
  exact Grammar.scan_worded "--count" (by decide +kernel) (by decide) rfl (some text) filter

theorem values_watch (unset : around.valueOf? intervalVariable = none)
    (spelled : Text.integer? text = some count) (state : StateFilter) :
    Command.watch.grammar.values around ["--count", text, "--state", state.name] =
      .ok ⟨[("--count", text), ("--state", state.name)], [], false⟩ := by
  have counted : countOption.checked around [text] = .ok [("--count", text)] :=
    OptionSpec.checked_integer (spelled ▸ rfl) "--count"
  have options : [countOption, stateOption].mapM (fun o => o.checked around
      (o.counting [(countOption, text), (stateOption, state.name)])) =
        .ok [[("--count", text)], [("--state", state.name)]] :=
    Outcome.mapM_eq_ok_iff_forall₂.mpr (.cons counted (.cons (checked_state state) .nil))
  have defaults : [intervalOption].mapM (fun o => o.checked around (o.fromVariable around)) =
      .ok [[]] :=
    Outcome.mapM_eq_ok_iff_forall₂.mpr (.cons (checked_interval unset) .nil)
  exact Grammar.values_eq (scan_watch text state) rfl options rfl defaults rfl

/-- A watch that is to end, where nothing else is said of the time between polls. -/
theorem read_watch (unset : around.valueOf? intervalVariable = none)
    (spelled : Text.integer? text = some count) (state : StateFilter) :
    Invocation.read around ["containers", "watch", "--count", text, "--state", state.name] =
      .ok (.watch true count state) := by
  have top : pick [.switch ["--verbose", "-v"]] entries
      ["containers", "watch", "--count", text, "--state", state.name] =
        .ok (some (.group Command.containers, ["watch", "--count", text, "--state", state.name])) :=
    pick_cons (by simp) (by decide) rfl _
  have inner : pick [] Command.containers ["watch", "--count", text, "--state", state.name] =
      .ok (some (Command.watch, ["--count", text, "--state", state.name])) :=
    pick_cons (by simp) (by decide) rfl _
  simp only [Invocation.read, top, inner, Bind.bind, Except.bind, Command.read,
    values_watch unset spelled]
  change Except.ok (Invocation.watch true (((some text).bind Text.integer?).getD 0)
    ((StateFilter.ofName? state.name).getD .all)) = _
  rw [Option.bind_some, spelled, StateFilter.ofName?_name]
  rfl

end Words

section Programs
variable {setting : Setting} {daemon : σ} {w : Workspace} {args : List String} {waits : Bool}
  {count : Int} {answers : List Answer}

theorem displays_of_read
    (asked : Invocation.read ⟨namesDirectory w, setting.valueOf?⟩ args =
      .ok (.watch waits count state))
    (positive : 1 ≤ count) (rounds : roundsOf waits answers = count.toNat)
    (happens : Happens client false daemon (turnsOf waits answers))
    (printable : Printable state (turnsOf waits answers)) :
    ∃ sights, Watched state (turnsOf waits answers) sights ∧ sights.length = count.toNat ∧
      Displays (runProgram client setting daemon w args) sights := by
  obtain ⟨sights, v, u, ran, watched, prints⟩ :=
    keeps_initial.follow (t := .begin daemon w args) happens .begin printable
  rw [List.nil_append, List.nil_append] at watched
  refine ⟨sights, watched, ?_, ?_⟩
  · rw [watched.length_eq, countP_turnsOf, rounds]
  · rw [runProgram_of_read asked (run_watch positive rounds ran)]
    exact displays_of_prints prints

end Programs

/-- However polls and refreshes take turns, each refresh shows the failure of the latest poll, or else
the list, unless that was shown last. A command line to watch makes as many refreshes as it says. -/
theorem watch_shows_changes (client : Client σ) (state : StateFilter) :
    (∀ turns (t : Session σ), Happens client t.connected t.daemon turns → Printable state turns →
      ∃ sights w u, (Watch.follow client state (turns.map Tick.of) .initial).run.run t = (.ok w, u) ∧
        Watched state turns sights ∧ Prints t u sights) ∧
    (∀ setting daemon w args waits count answers,
      Invocation.read ⟨namesDirectory w, setting.valueOf?⟩ args = .ok (.watch waits count state) →
      1 ≤ count → roundsOf waits answers = count.toNat →
      Happens client false daemon (turnsOf waits answers) →
      Printable state (turnsOf waits answers) →
      ∃ sights, Watched state (turnsOf waits answers) sights ∧ sights.length = count.toNat ∧
        Displays (runProgram client setting daemon w args) sights) ∧
    (∀ around text count, around.valueOf? intervalVariable = none →
      Text.integer? text = some count →
      Invocation.read around ["containers", "watch", "--count", text, "--state", state.name] =
        .ok (.watch true count state)) ∧
    ∀ turns sights, Watched state turns sights →
      (sights.filterMap Sight.list?).IsChain (· ≠ ·) ∧
      ∀ past later, turns = past ++ .refreshed :: later → Calm past →
        ∃ before after, sights = before ++ after ∧ Watched state (past ++ [.refreshed]) before ∧
          shown? before = some (Container.inState state (standing past)) := by
  refine ⟨?_, ?_, ?_, ?_⟩
  · intro turns t happens printable
    exact keeps_initial.follow happens .begin printable
  · intro setting daemon w args waits count answers asked positive rounds happens printable
    exact displays_of_read asked positive rounds happens printable
  · intro around text count unset spelled
    exact read_watch unset spelled state
  · intro turns sights watched
    exact ⟨watched.isChain, fun past later parts calm => watched.shown parts calm⟩

/-- A daemon whose only container cannot be listed for a while, and then is gone. -/
def flickering : Scripted :=
  let one := { Reply.plain with items := [.object [("Id", .text "c0ffee"),
    ("Names", .list [.text "/web"]), ("Image", .text "alpine"), ("State", .text "running")]] }
  ⟨[(.list, [one, { Reply.plain with fault := some (.connection "gone") }, one, Reply.plain])], []⟩

/-- The list is not shown again after an error. -/
theorem watch_shows_changes_flickering :
    let cs := [⟨"c0ffee", "web", "alpine", .running, "", 0, [], [], []⟩]
    let o := runProgram Scripted.client .plain flickering ⟨[]⟩
      ["containers", "watch", "--count", "4", "--state", "running"]
    Displays o [.list cs, .failure Failure.noAnswer, .unchanged, .list []] ∧
      o.err = "Error: Unable to reach the container engine. Please try again.\n" := by
  intro cs o
  let answers : List Answer := [.ok cs, .error (lostConnection "gone"), .ok cs, .ok []]
  obtain ⟨-, commands, reads, -⟩ := watch_shows_changes Scripted.client .running
  have asked := reads ⟨namesDirectory ⟨[]⟩, Setting.plain.valueOf?⟩ "4" 4 rfl (by decide +kernel)
  have happens : Happens Scripted.client false flickering (turnsOf true answers) :=
    .polled (by decide +kernel) <| .refreshed <| .polled (by decide +kernel) <| .refreshed <|
      .polled (by decide +kernel) <| .refreshed <| .polled (by decide +kernel) <| .refreshed .nil
  have printable : Printable .running (turnsOf true answers) := by
    intro xs there c hc
    have listed := List.mem_of_mem_filter hc
    have known : xs = cs ∨ xs = [] := by simpa [turnsOf, paired, answers] using there
    rcases known with rfl | rfl
    · obtain rfl := List.mem_singleton.mp listed
      exact ⟨"-", rfl⟩
    · cases listed
  have expected : Watched .running (turnsOf true answers)
      [.list cs, .failure Failure.noAnswer, .unchanged, .list []] := by
    have start : Watched .running [] [] := .begin
    have first := (start.polled (.ok cs)).refreshed (.list nofun nofun)
    have second := (first.polled (.error (lostConnection "gone"))).refreshed (.failure rfl)
    have third := (second.polled (.ok cs)).refreshed (.unchanged nofun rfl)
    exact (third.polled (.ok [])).refreshed (.list nofun nofun)
  obtain ⟨sights, watched, -, displays⟩ :=
    commands .plain flickering ⟨[]⟩ _ true 4 answers asked (by decide) rfl happens printable
  obtain rfl := watched.unique expected
  exact ⟨displays, displays.err.trans (by decide +kernel)⟩

end CommandLine

end DevEnv
