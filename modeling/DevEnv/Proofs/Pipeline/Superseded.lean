import DevEnv.Proofs.Pipeline.History
import Mathlib.Data.List.Destutter

/-!
Superseded calls have no influence: whatever they answer and whenever they do, the run looks the
same without them. Two machines are alike if they differ in superseded calls only; a superseded
answer leads to a machine that is alike, and every other event keeps machines alike.
-/

namespace DevEnv.Pipeline

set_option autoImplicit false

namespace Machine

/-- Whether the event answers no current call. -/
def stale (m : Machine) (e : Event) : Bool :=
  match e.answers? with
  | some (number, task) => !m.current.any fun w => w.number == number && w.task == task
  | none => false

/-- Machines that differ in superseded calls at most. -/
structure Alike (m n : Machine) : Prop where
  pipeline : m.pipeline = n.pipeline
  issued : m.issued = n.issued
  current : m.current = n.current

theorem Alike.refl (m : Machine) : Alike m m := ⟨rfl, rfl, rfl⟩

theorem Alike.trans {l m n : Machine} (h : Alike l m) (k : Alike m n) : Alike l n :=
  ⟨h.pipeline.trans k.pipeline, h.issued.trans k.issued, h.current.trans k.current⟩

end Machine

/-- What of a reaction can be seen from outside. The log is left out: it also names the failures of
superseded calls. -/
structure Sight where
  pipeline : Pipeline
  announced : List Stage
  called : Option (Nat × Call)
  returned : Option (Option Nat × Value)

def Reaction.sight (r : Reaction) : Sight :=
  ⟨r.machine.pipeline, r.announced, r.called, r.returned⟩

namespace Machine

variable {m n : Machine} {e : Event} {r : Reaction}

theorem not_stale_of_request? {t : Task} (h : e.request? = some t) : m.stale e = false := by
  simp [stale, Event.answers?_of_request? h]

theorem stale_of_answers? {number : Nat} {task : Task} (h : e.answers? = some (number, task)) :
    m.stale e = true ↔ ∀ w ∈ m.current, ¬ (w.number = number ∧ w.task = task) := by
  simp [stale, h]

/-! ### Superseded answers -/

/-- A superseded answer changes no more than the list of calls under way, and its caller gets
nothing. -/
structure Unnoticed (m : Machine) (e : Event) (r : Reaction) : Prop where
  alike : Alike r.machine m
  announced : r.announced = []
  called : r.called = none
  returned : ∀ w ∈ m.waiting, e.answers? = some (w.number, w.task) →
    r.returned = some (some w.number, .nothing w.task)

theorem unnoticed_of_reacts (h : m.Tidy) (hr : Reacts m e r) (hs : m.stale e = true) :
    Unnoticed m e r := by
  cases hr with
  | issue granted => simp [not_stale_of_request? granted.request?] at hs
  | refuse asked _ => simp [not_stale_of_request? asked] at hs
  | fail precluded => simp [not_stale_of_request? precluded.request?] at hs
  | count log waits counts =>
    exact absurd ⟨rfl, rfl⟩ ((stale_of_answers? counts.answers?).mp hs _ waits)
  | @supersede w log waits late answers =>
    refine ⟨⟨rfl, rfl, current_supersede h waits late⟩, rfl, rfl, ?_⟩
    intro v hv he
    rw [answers] at he
    obtain ⟨hn, ht⟩ := Prod.mk.inj (Option.some.inj he)
    simp [conclude, hn, ht]
  | ignore answers missing =>
    refine ⟨.refl m, rfl, rfl, ?_⟩
    intro w hw he
    rw [answers] at he
    obtain ⟨hn, ht⟩ := Prod.mk.inj (Option.some.inj he)
    exact absurd ⟨hn.symm, ht.symm⟩ (missing w hw)

/-! ### Events that count -/

theorem find?_of_mem_current (h : m.Tidy) {w : Waiting} (hw : w ∈ m.current) :
    m.find? w.number w.task = some w := by
  have hmem := (mem_current_iff.mp hw).1
  cases hf : m.find? w.number w.task with
  | none => exact absurd ⟨rfl, rfl⟩ (find?_eq_none hf w hmem)
  | some v =>
    obtain ⟨hv, hn, _⟩ := find?_eq_some hf
    rw [h.eq_of_number_eq hv hmem hn]

/-- Reactions that look the same and lead to machines that are alike. -/
structure Match (r s : Reaction) : Prop where
  alike : Alike r.machine s.machine
  sight : r.sight = s.sight

theorem match_issue (h : Alike m n) (hm : m.Inv) (hn : n.Inv) {t : Task} {move : Move}
    {call : Call} (hg : Grants m.pipeline e t move call) :
    Match (m.issue move t call) (n.issue move t call) := by
  have hg' : Grants n.pipeline e t move call := h.pipeline ▸ hg
  refine ⟨⟨rfl, ?_, ?_⟩, ?_⟩
  · simp [issue, h.issued]
  · rw [current_issue hm hg, current_issue hn hg', h.issued]
  · simp [Reaction.sight, issue, h.issued]

theorem match_fail (h : Alike m n) (hm : m.Inv) (hn : n.Inv) {t : Task} {misuse : Json.Misuse}
    (hs : m.pipeline.stage.awaited? = none) : Match (m.fail t misuse) (n.fail t misuse) := by
  refine ⟨⟨?_, h.issued, ?_⟩, ?_⟩
  · simp [fail, h.pipeline]
  · rw [current_fail hm hs, current_fail hn (h.pipeline ▸ hs)]
  · simp [Reaction.sight, fail, h.pipeline]

theorem match_conclude (h : Alike m n) {w : Waiting} {move : Move} {value : Value}
    {log log' : List LogEntry} (ht : move.pipeline.tokens = m.pipeline.tokens) :
    Match (m.conclude w move value log) (n.conclude w move value log') := by
  refine ⟨⟨rfl, h.issued, ?_⟩, rfl⟩
  rw [current_conclude ht, current_conclude (ht.trans (by rw [h.pipeline])), h.current]

/-- An event that is not stale does the same to machines that are alike. -/
theorem match_react (h : Alike m n) (hm : m.Inv) (hn : n.Inv) (hs : m.stale e = false) :
    Match (m.react e) (n.react e) := by
  have hr := m.reacts e
  generalize hreact : m.react e = r at hr
  cases hr with
  | issue granted =>
    rw [react_of_grants (h.pipeline ▸ granted)]
    exact match_issue h hm hn granted
  | refuse asked closed =>
    rw [react_of_not_admits asked (h.pipeline ▸ closed)]
    exact ⟨h, by simp [Reaction.sight, refuse, h.pipeline]⟩
  | fail precluded =>
    rw [react_of_precludes (h.pipeline ▸ precluded)]
    exact match_fail h hm hn precluded.awaited?
  | count log waits counts =>
    have waits' := h.current ▸ waits
    obtain ⟨log', heq⟩ := react_of_counts (find?_of_mem_current hn.tidy waits') waits'
      (h.pipeline ▸ counts)
    rw [heq]
    exact match_conclude h counts.tokens
  | supersede log waits late answers =>
    rw [Bool.eq_false_iff, ne_eq, stale_of_answers? answers] at hs
    refine absurd ?_ hs
    rintro v hv ⟨hn', -⟩
    exact late (hm.tidy.eq_of_number_eq (mem_current_iff.mp hv).1 waits hn' ▸ hv)
  | ignore answers missing =>
    rw [Bool.eq_false_iff, ne_eq, stale_of_answers? answers] at hs
    exact absurd (fun w hw => missing w (mem_current_iff.mp hw).1) hs

end Machine

/-! ### Runs -/

/-- Whether the step is no more than a superseded answer. -/
def Step.stale (s : Step) : Bool := s.before.stale s.event

def Step.sight (s : Step) : Sight := s.reaction.sight

namespace Machine

/-- The steps of a run without those of superseded answers. -/
def counted (m : Machine) (es : List Event) : List Step :=
  (m.steps es).filter fun s => !s.stale

/-- The values that a pipeline goes through in a run, as one that watches for changes sees them. -/
def values (m : Machine) (es : List Event) : List Pipeline :=
  ((m.steps es).map Step.pipeline).destutter' (· ≠ ·) m.pipeline

/-- All that a listener is told in a run. -/
def announcements (m : Machine) (es : List Event) : List Stage :=
  (m.steps es).flatMap fun s => s.reaction.announced

theorem counted_cons (m : Machine) (e : Event) (es : List Event) :
    m.counted (e :: es) =
      if m.stale e then (m.react e).machine.counted es
      else ⟨m, e, m.react e⟩ :: (m.react e).machine.counted es := by
  simp only [counted, steps, List.filter_cons, Step.stale]
  cases m.stale e <;> simp

/-- A run looks like the run of its counted events alone, from any machine that is alike. -/
theorem sights_eq_replay {m n : Machine} (h : Alike m n) (hm : m.Inv) (hn : n.Inv)
    (es : List Event) :
    (m.counted es).map Step.sight =
      (n.steps ((m.counted es).map Step.event)).map Step.sight := by
  induction es generalizing m n with
  | nil => rfl
  | cons e es ih =>
    rw [counted_cons]
    by_cases hs : m.stale e = true
    · rw [if_pos hs]
      have alike := (unnoticed_of_reacts hm.tidy (m.reacts e) hs).alike
      exact ih (alike.trans h) (hm.react e) hn
    · rw [if_neg hs]
      have hmatch := match_react h hm hn (Bool.eq_false_iff.mpr hs)
      simp only [List.map_cons, steps]
      rw [ih hmatch.alike (hm.react e) (hn.react e)]
      exact congrArg (· :: _) hmatch.sight

/-- A superseded answer is no change of value. -/
theorem values_eq_counted {m : Machine} (hm : m.Inv) (es : List Event) :
    m.values es =
      (((m.counted es).map Step.sight).map Sight.pipeline).destutter' (· ≠ ·) m.pipeline := by
  induction es generalizing m with
  | nil => rfl
  | cons e es ih =>
    have hrest := ih (hm.react e)
    rw [counted_cons]
    by_cases hs : m.stale e = true
    · have hsame := (unnoticed_of_reacts hm.tidy (m.reacts e) hs).alike.pipeline
      rw [if_pos hs, ← hsame, ← hrest]
      simp [values, steps, Step.pipeline, hsame]
    · rw [if_neg hs]
      simp only [values, steps, Step.pipeline, Step.sight, Reaction.sight, List.map_cons,
        List.destutter'] at hrest ⊢
      split
      · rw [hrest]
      · rename_i heq
        rw [not_not] at heq
        rw [heq, hrest]

theorem announcements_eq_counted {m : Machine} (hm : m.Inv) (es : List Event) :
    m.announcements es = ((m.counted es).map Step.sight).flatMap Sight.announced := by
  induction es generalizing m with
  | nil => rfl
  | cons e es ih =>
    have hrest := ih (hm.react e)
    rw [counted_cons]
    by_cases hs : m.stale e = true
    · have hnone := (unnoticed_of_reacts hm.tidy (m.reacts e) hs).announced
      rw [if_pos hs, ← hrest]
      simp [announcements, steps, hnone]
    · rw [if_neg hs]
      simp only [List.map_cons, List.flatMap_cons, ← hrest]
      rfl

/-- Superseded calls have no influence. Two runs that agree on their requests and on the answers to
calls that are current when they are answered agree step by step on the pipeline, on what the
listener is told, on the calls to the engine and on what callers get back; they go through the same
values with the same announcements; and a superseded call gives its caller nothing. -/
theorem run_eq_of_counted_eq :
    (∀ es fs : List Event,
      (initial.counted es).map Step.event = (initial.counted fs).map Step.event →
        (initial.counted es).map Step.sight = (initial.counted fs).map Step.sight ∧
        initial.values es = initial.values fs ∧
        initial.announcements es = initial.announcements fs) ∧
    ∀ es : List Event, ∀ s ∈ initial.steps es, s.stale = true →
      Unnoticed s.before s.event s.reaction := by
  refine ⟨?_, ?_⟩
  · intro es fs h
    have hsights : (initial.counted es).map Step.sight = (initial.counted fs).map Step.sight := by
      rw [sights_eq_replay (.refl _) inv_initial inv_initial es, h,
        ← sights_eq_replay (.refl _) inv_initial inv_initial fs]
    refine ⟨hsights, ?_, ?_⟩
    · rw [values_eq_counted inv_initial, values_eq_counted inv_initial, hsights]
    · rw [announcements_eq_counted inv_initial, announcements_eq_counted inv_initial, hsights]
  · intro es s hs hstale
    obtain ⟨hinv, hreact⟩ := inv_initial.before_of_mem_steps hs
    exact unnoticed_of_reacts hinv.tidy (hreact ▸ s.before.reacts s.event) hstale

/-- The answer to an outdated generation comes before the one that counts, or after it. -/
def overtaken (early late : List Event) : List Event :=
  let draft (version : String) : Draft := ⟨.null, ⟨.text "debian", .text version⟩, [], none⟩
  [.generate (draft "bullseye"), .generate (draft "bookworm")] ++ early ++
    [.generated 1 (.ok "FROM new\n")] ++ late

theorem overtaken_eq :
    let es := overtaken [.generated 0 (.ok "FROM old\n")] []
    let fs := overtaken [] [.generated 0 (.error (.unforeseen (.runtime "late")))]
    (initial.counted es).map Step.event = (initial.counted fs).map Step.event ∧
      (initial.counted es).map Step.sight = (initial.counted fs).map Step.sight ∧
      initial.values es = initial.values fs ∧
      initial.announcements es = initial.announcements fs :=
  ⟨rfl, run_eq_of_counted_eq.1 _ _ rfl⟩

end Machine

end DevEnv.Pipeline
