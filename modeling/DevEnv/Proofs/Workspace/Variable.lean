import DevEnv.Proofs.Run
import DevEnv.Proofs.Workspace.Keeping

/-!
The kept progress as a variable. Whatever is asked of it, in whatever order, is answered as if the
progress were held in memory.
-/

namespace DevEnv.Keeper

set_option autoImplicit false

open Workspace StateFile

inductive Request
  | keep (p : Progress)
  | keepEnvironment (e : Environment)
  | forget
  | fetch
  | fetchEnvironment
deriving DecidableEq, Repr

inductive Answer
  | done
  | progress (kept : Option Progress)
  | environment (e : Environment)
deriving DecidableEq, Repr

/-- Why there is no answer. -/
inductive Trouble
  | file (fault : FileFault)
  | state (fault : StateFile.Fault)
deriving DecidableEq, Repr

/-- What comes of a request; trouble leaves the files alone. -/
structure Reply where
  answer : Except Trouble Answer
  warnings : Nat
  files : Workspace

/-! ### In the files -/

/-- The reply after the files have been changed. -/
def changed (w : Workspace) (warnings : Nat) : Except FileFault Workspace → Reply
  | .ok w' => ⟨.ok .done, warnings, w'⟩
  | .error fault => ⟨.error (.file fault), warnings, w⟩

/-- The reply on what has been loaded. -/
def loaded (w : Workspace) (found : Loaded) (reply : Option Progress → Reply) : Reply :=
  match found.progress? with
  | .ok kept => reply kept
  | .error fault => ⟨.error (.state fault), found.warnings, w⟩

def serve (limit : Json.DigitLimit) (spoken : List Char) (w : Workspace) (r : Request) : Reply :=
  let found := w.stateFile.loadWithin limit spoken
  match r with
  | .keep p => changed w 0 (w.saveProgress p)
  | .keepEnvironment e =>
    loaded w found fun kept => changed w found.warnings (w.saveProgress (withEnvironment kept e))
  | .forget => changed w 0 w.clearProgress
  | .fetch => loaded w found fun kept => ⟨.ok (.progress kept), found.warnings, w⟩
  | .fetchEnvironment =>
    loaded w found fun kept => ⟨.ok (.environment (environmentOf kept)), found.warnings, w⟩

/-! ### In memory -/

/-- The answer of a variable, and its value from then on. -/
def remember (kept : Option Progress) : Request → Answer × Option Progress
  | .keep p => (.done, some p)
  | .keepEnvironment e => (.done, some (withEnvironment kept e))
  | .forget => (.done, none)
  | .fetch => (.progress kept, kept)
  | .fetchEnvironment => (.environment (environmentOf kept), kept)

/-- Requests that bring no number over the limit. -/
def Request.Fits (limit : Json.DigitLimit) : Request → Prop
  | .keep p => p.Fits limit
  | .keepEnvironment e => (Progress.mk 1 e).Fits limit
  | _ => True

theorem Request.fits_none (r : Request) : r.Fits none := by
  cases r with
  | keep p => exact p.fits_none
  | keepEnvironment e => exact Progress.fits_none _
  | forget => trivial
  | fetch => trivial
  | fetchEnvironment => trivial

/-! ### They agree -/

section Agreement
variable {limit : Json.DigitLimit} (spoken : List Char) {w : Workspace} {kept : Option Progress}

theorem loaded_of_keeps (h : Keeps limit w kept) (reply : Option Progress → Reply) :
    loaded w (w.stateFile.loadWithin limit spoken) reply = reply kept ∧
      (w.stateFile.loadWithin limit spoken).warnings = 0 := by
  rw [h.loadWithin_eq spoken, loaded, Loaded.progress?_ofKept]
  exact ⟨rfl, Loaded.warnings_ofKept kept⟩

theorem fits_withEnvironment (h : Keeps limit w kept) {e : Environment}
    (he : (Progress.mk 1 e).Fits limit) : (withEnvironment kept e).Fits limit := by
  cases h with
  | nothing => exact he
  | progress _ _ hfits => exact ⟨hfits.step, he.port⟩

theorem changed_of_saved (h : Keeps limit w kept) {p : Progress} (hp : p.Fits limit) :
    ∃ w', changed w 0 (w.saveProgress p) = ⟨.ok .done, 0, w'⟩ ∧ Keeps limit w' (some p) := by
  obtain ⟨w', hsaved, hkeeps⟩ := h.saveProgress hp
  exact ⟨w', by rw [hsaved, changed], hkeeps⟩

/-- A request to the files is answered as the variable answers it. -/
theorem serve_of_keeps (h : Keeps limit w kept) {r : Request} (hr : r.Fits limit) :
    ∃ w', serve limit spoken w r = ⟨.ok (remember kept r).1, 0, w'⟩ ∧
      Keeps limit w' (remember kept r).2 := by
  cases r with
  | keep p => exact changed_of_saved h hr
  | keepEnvironment e =>
    obtain ⟨w', hchanged, hkeeps⟩ := changed_of_saved h (fits_withEnvironment h hr)
    obtain ⟨hloaded, hquiet⟩ := loaded_of_keeps spoken h fun kept =>
      changed w 0 (w.saveProgress (withEnvironment kept e))
    refine ⟨w', ?_, hkeeps⟩
    rw [serve, hquiet, hloaded, hchanged]
    rfl
  | forget =>
    obtain ⟨w', hcleared, hkeeps⟩ := h.clearProgress
    refine ⟨w', ?_, hkeeps⟩
    rw [serve, hcleared]
    rfl
  | fetch =>
    obtain ⟨hloaded, hquiet⟩ := loaded_of_keeps spoken h fun kept =>
      ⟨.ok (.progress kept), 0, w⟩
    refine ⟨w, ?_, h⟩
    rw [serve, hquiet, hloaded]
    rfl
  | fetchEnvironment =>
    obtain ⟨hloaded, hquiet⟩ := loaded_of_keeps spoken h fun kept =>
      ⟨.ok (.environment (environmentOf kept)), 0, w⟩
    refine ⟨w, ?_, h⟩
    rw [serve, hquiet, hloaded]
    rfl

end Agreement

/-- Requests to the files are answered as a variable answers them, without a warning, and leave in
the files what they leave in the variable. -/
theorem answered_from_memory (limit : Json.DigitLimit) (spoken : List Char) :
    (∀ (w : Workspace) (kept : Option Progress), Keeps limit w kept →
      ∀ rs : List Request, (∀ r ∈ rs, r.Fits limit) →
        (Run.steps (serve limit spoken) Reply.files w rs).map
            (fun x => (x.reaction.answer, x.reaction.warnings)) =
          (Run.steps remember Prod.snd kept rs).map (fun x => (.ok x.reaction.1, 0)) ∧
        Keeps limit (Run.after (serve limit spoken) Reply.files w rs)
          (Run.after remember Prod.snd kept rs)) ∧
    Keeps limit ⟨[]⟩ none ∧
    (∀ p : Progress, p.Fits limit → loadText limit spoken (textOf p) = .progress p .none) ∧
    ∀ r : Request, r.Fits none := by
  refine ⟨fun w kept hkeeps rs hrs => ?_, keeps_empty limit, fun p => loadText_textOf spoken,
    Request.fits_none⟩
  rw [← List.forall₂_eq_eq_eq, List.forall₂_map_left_iff, List.forall₂_map_right_iff]
  refine Run.simulates (R := Keeps limit) (fun w kept r hkeeps hr => ?_) hkeeps hrs
  obtain ⟨w', hreply, hkeeps'⟩ := serve_of_keeps spoken hkeeps hr
  rw [hreply]
  exact ⟨rfl, hkeeps'⟩

/-- A name in quotes is kept, and found again. -/
theorem answered_from_memory_quotes :
    let e : Environment := { Environment.default with name := some "\"\\\n\"" }
    let rs : List Request := [.keep ⟨7, .default⟩, .keepEnvironment e, .fetch, .forget, .fetch]
    Keeps .usual ⟨[]⟩ none ∧ (∀ r ∈ rs, r.Fits .usual) ∧
      (Run.steps (serve .usual []) Reply.files ⟨[]⟩ rs).map
          (fun x => (x.reaction.answer, x.reaction.warnings)) =
        [(.ok .done, 0), (.ok .done, 0), (.ok (.progress (some ⟨7, e⟩)), 0), (.ok .done, 0),
          (.ok (.progress none), 0)] := by
  intro e rs
  have hkeep : (Progress.mk 7 .default).Fits .usual := ⟨by decide, nofun⟩
  have hedit : (Progress.mk 1 e).Fits .usual := ⟨by decide, nofun⟩
  have hrs : ∀ r ∈ rs, r.Fits .usual := by
    simp only [rs, List.forall_mem_cons]
    exact ⟨hkeep, hedit, trivial, trivial, trivial, nofun⟩
  obtain ⟨hanswers, hempty, -⟩ := answered_from_memory .usual []
  exact ⟨hempty, hrs, (hanswers ⟨[]⟩ none hempty rs hrs).1⟩

end DevEnv.Keeper
