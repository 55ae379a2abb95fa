import DevEnv.Proofs.Environment.Validity

/-!
Sequences of edits of the languages. What is listed in the end is decided, for each language, by the
last edit of it that succeeded; languages that no such edit was about come first, as they stood, and
the others in the order of those edits.
-/

namespace DevEnv

set_option autoImplicit false

inductive LanguageStep
  | put (name version : Json)
  | remove (name : Json)
deriving DecidableEq, Repr

/-- The step that puts the language on a list. -/
def Language.step (l : Language) : LanguageStep := .put (.text l.name) (.text l.version)

namespace LanguageStep

def edit : LanguageStep → Edit
  | put name version => .language name version
  | remove name => .removeLanguage name

def about : LanguageStep → Json
  | put name _ => name
  | remove name => name

/-- The language that the step puts on the list, if there is such a language. -/
def language? : LanguageStep → Option Language
  | put (.text name) (.text version) => (Language.check name version).toOption
  | _ => none

theorem language?_step (l : Language) : l.step.language? = some l := by
  have checked : Language.check l.name l.version = .ok l := Language.check_eq_ok_iff.mpr ⟨rfl, rfl⟩
  rw [Language.step, language?, checked]
  rfl

theorem eq_step_of_language? {s : LanguageStep} {l : Language} (h : s.language? = some l) :
    s = l.step := by
  unfold language? at h
  split at h
  · rename_i name version
    cases checked : Language.check name version with
    | error refusal =>
      rw [checked] at h
      cases h
    | ok m =>
      rw [checked] at h
      obtain rfl := Option.some.inj h
      obtain ⟨rfl, rfl⟩ := Language.check_eq_ok_iff.mp checked
      rfl
  · cases h

/-- No step is about the language of this name. -/
def Untouched (steps : List LanguageStep) (name : Json) : Prop := ∀ s ∈ steps, s.about ≠ name

instance (steps : List LanguageStep) (name : Json) : Decidable (Untouched steps name) :=
  inferInstanceAs (Decidable (∀ s ∈ steps, s.about ≠ name))

theorem untouched_cons {s : LanguageStep} {steps : List LanguageStep} {name : Json} :
    Untouched (s :: steps) name ↔ s.about ≠ name ∧ Untouched steps name :=
  List.forall_mem_cons

/-- The languages that steps put on a list and no later step is about, in the order of the steps. -/
def standing : List LanguageStep → List Language
  | [] => []
  | s :: steps =>
    if Untouched steps s.about then s.language?.toList ++ standing steps else standing steps

def IsLast (s : LanguageStep) (steps : List LanguageStep) : Prop :=
  ∃ before after, steps = before ++ s :: after ∧ Untouched after s.about

/-- Each of the two steps is the last one about its language, and the first of them comes first. -/
def LastInTurn (steps : List LanguageStep) (s t : LanguageStep) : Prop :=
  ∃ before between after, steps = before ++ s :: (between ++ t :: after) ∧
    Untouched (between ++ t :: after) s.about ∧ Untouched after t.about

section Standing
variable {s t : LanguageStep} {steps : List LanguageStep} {l : Language}

theorem isLast_cons :
    s.IsLast (t :: steps) ↔ (t = s ∧ Untouched steps s.about) ∨ s.IsLast steps := by
  constructor
  · rintro ⟨before, after, split, untouched⟩
    cases before with
    | nil =>
      obtain ⟨rfl, rfl⟩ := List.cons.inj split
      exact .inl ⟨rfl, untouched⟩
    | cons u before =>
      obtain ⟨-, rfl⟩ := List.cons.inj split
      exact .inr ⟨before, after, rfl, untouched⟩
  · rintro (⟨rfl, untouched⟩ | ⟨before, after, rfl, untouched⟩)
    · exact ⟨[], steps, rfl, untouched⟩
    · exact ⟨t :: before, after, rfl, untouched⟩

theorem IsLast.mem (h : s.IsLast steps) : s ∈ steps := by
  obtain ⟨before, after, rfl, -⟩ := h
  exact List.mem_append_right before List.mem_cons_self

theorem LastInTurn.cons (h : LastInTurn steps s t) (u : LanguageStep) :
    LastInTurn (u :: steps) s t := by
  obtain ⟨before, between, after, rfl, first, second⟩ := h
  exact ⟨u :: before, between, after, rfl, first, second⟩

theorem mem_standing : l ∈ standing steps ↔ l.step.IsLast steps := by
  induction steps with
  | nil =>
    refine iff_of_false nofun ?_
    rintro ⟨before, after, split, -⟩
    cases before <;> cases split
  | cons s steps ih =>
    rw [isLast_cons, ← ih, standing]
    have here : l ∈ s.language?.toList ↔ s = l.step := by
      rw [Option.mem_toList]
      constructor
      · exact eq_step_of_language?
      · rintro rfl
        exact language?_step l
    by_cases untouched : Untouched steps s.about
    · rw [if_pos untouched, List.mem_append, here]
      refine or_congr_left ⟨?_, And.left⟩
      rintro rfl
      exact ⟨rfl, untouched⟩
    · rw [if_neg untouched]
      refine (or_iff_right ?_).symm
      rintro ⟨rfl, last⟩
      exact untouched last

theorem pairwise_standing (steps : List LanguageStep) :
    (standing steps).Pairwise fun l m => LastInTurn steps l.step m.step := by
  induction steps with
  | nil => exact .nil
  | cons s steps ih =>
    have later : (standing steps).Pairwise fun l m => LastInTurn (s :: steps) l.step m.step :=
      ih.imp fun h => h.cons s
    rw [standing]
    by_cases untouched : Untouched steps s.about
    · rw [if_pos untouched]
      cases put : s.language? with
      | none => exact later
      | some l =>
        obtain rfl := eq_step_of_language? put
        refine List.pairwise_cons.mpr ⟨?_, later⟩
        intro m hm
        obtain ⟨before, after, rfl, last⟩ := mem_standing.mp hm
        exact ⟨[], before, after, rfl, untouched, last⟩
    · rw [if_neg untouched]
      exact later

end Standing

end LanguageStep

namespace Environment

open LanguageStep

/-- The environment after the steps; those that fail are skipped. -/
def revisedBy (e : Environment) (steps : List LanguageStep) : Environment :=
  steps.foldl (fun e s => e.revised s.edit) e

def successes (e : Environment) : List LanguageStep → List LanguageStep
  | [] => []
  | s :: steps =>
    match e.apply s.edit with
    | .ok e' => s :: successes e' steps
    | .error _ => successes e steps

theorem languages_of_apply {e e' : Environment} {s : LanguageStep} (h : e.apply s.edit = .ok e') :
    e'.languages = e.languagesBut s.about ++ s.language?.toList := by
  cases s with
  | put n v =>
    obtain ⟨-, -, ⟨l, ⟨rfl, rfl⟩, listed⟩, -⟩ := apply_eq_ok_iff.mp h
    have put : LanguageStep.put (.text l.name) (.text l.version) = l.step := rfl
    rw [put, language?_step]
    exact listed
  | remove n =>
    obtain ⟨-, -, listed, -⟩ := apply_eq_ok_iff.mp h
    have nothing : (LanguageStep.remove n).language?.toList = [] := rfl
    rw [listed, nothing, List.append_nil]
    rfl

theorem filter_languagesBut (e : Environment) (s : LanguageStep) (steps : List LanguageStep) :
    (e.languagesBut s.about).filter (fun l => Untouched steps (.text l.name)) =
      e.languages.filter fun l => Untouched (s :: steps) (.text l.name) := by
  rw [languagesBut, List.filter_filter]
  apply List.filter_congr
  intro l _
  apply Bool.eq_iff_iff.mpr
  simp only [Bool.and_eq_true, decide_eq_true_eq, bne_iff_ne, ne_eq, untouched_cons]
  rw [and_comm, eq_comm]

theorem filter_language? (s : LanguageStep) (steps : List LanguageStep) :
    s.language?.toList.filter (fun l => Untouched steps (.text l.name)) ++ standing steps =
      standing (s :: steps) := by
  rw [standing]
  cases put : s.language? with
  | none => simp
  | some l =>
    obtain rfl := eq_step_of_language? put
    have about : l.step.about = .text l.name := rfl
    rw [about]
    by_cases untouched : Untouched steps (.text l.name) <;> simp [untouched]

/-- The list after a sequence of steps, by those that succeed. -/
theorem languages_revisedBy (e : Environment) (steps : List LanguageStep) :
    (e.revisedBy steps).languages =
      e.languages.filter (fun l => Untouched (e.successes steps) (.text l.name)) ++
        standing (e.successes steps) := by
  -- From the front: of what the first step leaves on the list, the later ones take what they are about.
  induction steps generalizing e with
  | nil =>
    have all : ∀ l ∈ e.languages, decide (Untouched [] (.text l.name)) = true :=
      fun l _ => decide_eq_true nofun
    rw [successes, standing, List.append_nil, List.filter_eq_self.mpr all]
    rfl
  | cons s steps ih =>
    have first : e.revisedBy (s :: steps) = (e.revised s.edit).revisedBy steps := rfl
    rw [first, ih, successes, revised]
    cases applied : e.apply s.edit with
    | error issues => rfl
    | ok e' =>
      dsimp only
      rw [languages_of_apply applied, List.filter_append, filter_languagesBut, List.append_assoc,
        filter_language?]

/-- A step that puts a language on the list and succeeds, puts on one that there is. -/
theorem exists_language_of_mem_successes {e : Environment} {steps : List LanguageStep} {n v : Json}
    (h : .put n v ∈ e.successes steps) : ∃ l : Language, .put n v = l.step := by
  induction steps generalizing e with
  | nil => cases h
  | cons s steps ih =>
    rw [successes] at h
    cases applied : e.apply s.edit with
    | error issues =>
      rw [applied] at h
      exact ih h
    | ok e' =>
      rw [applied] at h
      rcases List.mem_cons.mp h with rfl | later
      · obtain ⟨-, -, ⟨l, ⟨rfl, rfl⟩, -⟩, -⟩ := apply_eq_ok_iff.mp applied
        exact ⟨l, rfl⟩
      · exact ih later

/-- What the steps that succeeded make of a list of languages. -/
structure LastWins (done : List LanguageStep) (ls ms : List Language) : Prop where
  listed : ∀ name, (∃ m ∈ ms, m.name = name) ↔
    (∃ version, (put (.text name) version).IsLast done) ∨
      (Untouched done (.text name) ∧ ∃ l ∈ ls, l.name = name)
  once : (ms.map Language.name).Nodup
  version : ∀ m ∈ ms, m.step.IsLast done ∨ (Untouched done (.text m.name) ∧ m ∈ ls)
  order : ∃ written, ms = ls.filter (fun l => Untouched done (.text l.name)) ++ written ∧
    (∀ m ∈ written, m.step.IsLast done) ∧
      written.Pairwise fun l m => LastInTurn done l.step m.step

theorem lastWins (e : Environment) (steps : List LanguageStep) :
    LastWins (e.successes steps) e.languages (e.revisedBy steps).languages := by
  have mem_revisedBy : ∀ m, m ∈ (e.revisedBy steps).languages ↔
      (m ∈ e.languages ∧ Untouched (e.successes steps) (.text m.name)) ∨
        m.step.IsLast (e.successes steps) := by
    intro m
    rw [languages_revisedBy, List.mem_append, List.mem_filter, decide_eq_true_iff, mem_standing]
  refine ⟨fun name => ⟨?_, ?_⟩, (e.revisedBy steps).distinct, fun m hm => ?_, ?_⟩
  · rintro ⟨m, hm, rfl⟩
    rcases (mem_revisedBy m).mp hm with ⟨old, untouched⟩ | last
    · exact .inr ⟨untouched, m, old, rfl⟩
    · exact .inl ⟨_, last⟩
  · rintro (⟨version, last⟩ | ⟨untouched, m, old, rfl⟩)
    · obtain ⟨l, same⟩ := exists_language_of_mem_successes last.mem
      obtain ⟨named, -⟩ := LanguageStep.put.inj same
      rw [same] at last
      exact ⟨l, (mem_revisedBy l).mpr (.inr last), (Json.text.inj named).symm⟩
    · exact ⟨m, (mem_revisedBy m).mpr (.inl ⟨old, untouched⟩), rfl⟩
  · rcases (mem_revisedBy m).mp hm with ⟨old, untouched⟩ | last
    · exact .inr ⟨untouched, old⟩
    · exact .inl last
  · exact ⟨_, languages_revisedBy e steps, fun m => mem_standing.mp, pairwise_standing _⟩

/-! ### Steps about the same language -/

theorem eq_of_parts {e f : Environment} (name : e.name = f.name) (system : e.system = f.system)
    (languages : e.languages = f.languages) (ssh : e.ssh = f.ssh) : e = f := by
  cases e
  cases f
  dsimp only at name system languages ssh
  subst name system languages ssh
  rfl

theorem rest_of_apply {e e' : Environment} {s : LanguageStep} (h : e.apply s.edit = .ok e') :
    e'.name = e.name ∧ e'.system = e.system ∧ e'.ssh = e.ssh := by
  cases s with
  | put n v =>
    obtain ⟨name, system, -, ssh⟩ := apply_eq_ok_iff.mp h
    exact ⟨name, system, ssh⟩
  | remove n =>
    obtain ⟨name, system, -, ssh⟩ := apply_eq_ok_iff.mp h
    exact ⟨name, system, ssh⟩

theorem languagesBut_of_apply {e e' : Environment} {s : LanguageStep}
    (h : e.apply s.edit = .ok e') : e'.languagesBut s.about = e.languagesBut s.about := by
  have others : (e.languagesBut s.about).filter (fun l => .text l.name != s.about) =
      e.languagesBut s.about := by
    rw [languagesBut, List.filter_filter]
    simp
  have gone : s.language?.toList.filter (fun l => .text l.name != s.about) = [] := by
    apply List.filter_eq_nil_iff.mpr
    intro l hl
    rw [eq_step_of_language? (Option.mem_toList.mp hl)]
    simp [Language.step, about]
  rw [languagesBut, languages_of_apply h, List.filter_append, others, gone, List.append_nil]

theorem rest_of_revised (e : Environment) (s : LanguageStep) :
    (e.revised s.edit).name = e.name ∧ (e.revised s.edit).system = e.system ∧
      (e.revised s.edit).ssh = e.ssh ∧
        (e.revised s.edit).languagesBut s.about = e.languagesBut s.about := by
  rw [revised]
  cases applied : e.apply s.edit with
  | error issues => exact ⟨rfl, rfl, rfl, rfl⟩
  | ok e' =>
    obtain ⟨name, system, ssh⟩ := rest_of_apply applied
    exact ⟨name, system, ssh, languagesBut_of_apply applied⟩

/-- A step that succeeds leaves nothing of a step about the same language before it. -/
theorem revised_revised {e e' : Environment} {s t : LanguageStep} (same : s.about = t.about)
    (h : e.apply t.edit = .ok e') : (e.revised s.edit).revised t.edit = e' := by
  obtain ⟨name, system, ssh, others⟩ := e.rest_of_revised s
  obtain ⟨f, applied⟩ : ∃ f, (e.revised s.edit).apply t.edit = .ok f :=
    exists_apply_eq_ok_iff.mpr (exists_apply_eq_ok_iff.mp ⟨e', h⟩)
  obtain ⟨name', system', ssh'⟩ := rest_of_apply h
  obtain ⟨name'', system'', ssh''⟩ := rest_of_apply applied
  rw [revised, applied]
  apply eq_of_parts
  · rw [name'', name, name']
  · rw [system'', system, system']
  · rw [languages_of_apply applied, languages_of_apply h, ← same, others]
  · rw [ssh'', ssh, ssh']

theorem revised_remove (e : Environment) (n : Json) :
    ∃ e', e.apply (remove n).edit = .ok e' ∧ e.revised (.removeLanguage n) = e' := by
  obtain ⟨e', applied⟩ : ∃ e', e.apply (remove n).edit = .ok e' :=
    exists_apply_eq_ok_iff.mpr trivial
  refine ⟨e', applied, ?_⟩
  change e.revised (remove n).edit = e'
  rw [revised, applied]

theorem revised_remove_eq_self_iff (e : Environment) (n : Json) :
    e.revised (.removeLanguage n) = e ↔ ∀ l ∈ e.languages, .text l.name ≠ n := by
  obtain ⟨e', applied, result⟩ := e.revised_remove n
  have listed : e'.languages = e.languagesBut n := by
    rw [languages_of_apply applied]
    exact List.append_nil _
  obtain ⟨name, system, ssh⟩ := rest_of_apply applied
  have unlisted : e.languagesBut n = e.languages ↔ ∀ l ∈ e.languages, .text l.name ≠ n := by
    rw [languagesBut, List.filter_eq_self]
    simp only [bne_iff_ne]
  rw [result, ← unlisted]
  constructor
  · rintro rfl
    exact listed.symm
  · intro same
    exact eq_of_parts name system (listed.trans same) ssh

/-- The last step that succeeds decides about a language. Put on twice it is there once, in the version
it was put on with last, and taking it off undoes all that: what was there before is back if the
language was not on the list. -/
theorem last_write_wins (e : Environment) :
    (∀ steps, LastWins (e.successes steps) e.languages (e.revisedBy steps).languages) ∧
    (∀ n v, (e.revised (.language n v)).revised (.language n v) = e.revised (.language n v)) ∧
    (∀ (l : Language) (v : Json), (e.revised (.language (.text l.name) v)).revised
      (.language (.text l.name) (.text l.version)) =
        e.revised (.language (.text l.name) (.text l.version))) ∧
    ∀ n v, (e.revised (.language n v)).revised (.removeLanguage n) =
        e.revised (.removeLanguage n) ∧
      ((e.revised (.language n v)).revised (.removeLanguage n) = e ↔
        ∀ l ∈ e.languages, .text l.name ≠ n) := by
  refine ⟨e.lastWins, fun n v => ?_, fun l v => ?_, fun n v => ?_⟩
  · cases applied : e.apply (.language n v) with
    | error issues => rw [revised_of_error applied, revised_of_error applied]
    | ok e' =>
      have result : e.revised (.language n v) = e' := by rw [revised, applied]
      exact (revised_revised (s := put n v) (t := put n v) rfl applied).trans result.symm
  · obtain ⟨e', applied⟩ : ∃ e', e.apply l.step.edit = .ok e' :=
      exists_apply_eq_ok_iff.mpr ⟨l.name, l.version, rfl, rfl, l.offered⟩
    have result : e.revised l.step.edit = e' := by rw [revised, applied]
    exact (revised_revised (s := put (.text l.name) v) (t := l.step) rfl applied).trans result.symm
  · obtain ⟨e', applied, result⟩ := e.revised_remove n
    have undone : (e.revised (.language n v)).revised (.removeLanguage n) = e' :=
      revised_revised (s := put n v) (t := remove n) rfl applied
    rw [undone, ← result]
    exact ⟨rfl, e.revised_remove_eq_self_iff n⟩

end Environment

end DevEnv
