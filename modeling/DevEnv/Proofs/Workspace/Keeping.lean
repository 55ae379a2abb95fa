import DevEnv.Proofs.Json.RoundTrip
import DevEnv.Proofs.Workspace.Loading

/-!
Keeping progress in a working directory. What has been saved is what is loaded, whatever its texts
and numbers are, as long as the numbers are within the limit on digits.
-/

namespace DevEnv

set_option autoImplicit false

/-- Progress whose numbers are within the limit. -/
structure Progress.Fits (limit : Json.DigitLimit) (p : Progress) : Prop where
  step : limit.allows (Json.digitCount p.step) = true
  port : ∀ a, p.environment.ssh = some a → limit.allows (Json.digitCount a.port) = true

theorem Progress.fits_none (p : Progress) : p.Fits none := ⟨rfl, fun _ _ => rfl⟩

/-! ### Stored forms can be restored -/

section Restoring
variable {limit : Json.DigitLimit}

open Json

theorem restorable_ofText? (depth : Nat) (o : Option String) :
    Restorable limit depth (.ofText? o) := by
  cases o <;> trivial

theorem BaseSystem.restorable_toJson (depth : Nat) (s : BaseSystem) :
    Restorable limit (depth + 1) s.toJson := by
  have hkeys : ["type", "version"].Nodup := by decide
  exact ⟨hkeys, trivial, trivial, trivial⟩

theorem Language.restorable_toJson (depth : Nat) (l : Language) :
    Restorable limit (depth + 1) l.toJson := by
  have hkeys : ["name", "version"].Nodup := by decide
  exact ⟨hkeys, trivial, trivial, trivial⟩

theorem restorableItems_languages (depth : Nat) (ls : List Language) :
    RestorableItems limit (depth + 1) (ls.map Language.toJson) := by
  induction ls with
  | nil => trivial
  | cons l ls ih => exact ⟨l.restorable_toJson depth, ih⟩

theorem SshAccess.restorable_optionToJson (depth : Nat) {o : Option SshAccess}
    (h : ∀ a, o = some a → limit.allows (digitCount a.port) = true) :
    Restorable limit (depth + 1) (optionToJson o) := by
  cases o with
  | none => trivial
  | some a =>
    have hkeys : ["enabled", "port", "password", "public_key"].Nodup := by decide
    exact ⟨hkeys, trivial, h a rfl, trivial, restorable_ofText? depth a.publicKey, trivial⟩

theorem Progress.restorable_toJson {p : Progress} (h : p.Fits limit) :
    Restorable limit maxDepth p.toJson := by
  have hkeys : ["current_step", "config"].Nodup := by decide
  have hfields : ["name", "os", "languages", "ssh"].Nodup := by decide
  have henvironment : Restorable limit (maxDepth - 1) p.environment.toJson := by
    refine ⟨hfields, restorable_ofText? _ _, BaseSystem.restorable_toJson _ _, ?_, ?_, trivial⟩
    · exact restorableItems_languages _ _
    · exact SshAccess.restorable_optionToJson _ h.port
  exact ⟨hkeys, h.step, henvironment, trivial⟩

end Restoring

/-! ### Loading what was written -/

theorem Text.StandIns.avoiding_eq_none {points : List Nat}
    (h : ∀ n ∈ points, isSurrogate n = false) : avoiding points = none := by
  have hhalves : points.filter isSurrogate = [] :=
    List.filter_eq_nil_iff.mpr fun n hn => by simp [h n hn]
  simp only [avoiding, hhalves]
  rfl

namespace StateFile

variable {limit : Json.DigitLimit} (spoken : List Char)

theorem standInsOf_of_restorable {depth : Nat} {v : Json} (h : Json.Restorable limit depth v) :
    standInsOf spoken v = .none := by
  refine Text.StandIns.avoiding_eq_none fun n hn => ?_
  rcases List.mem_append.mp hn with hn | hn
  · exact Json.isSurrogate_of_mem_points limit depth v h hn
  · exact Json.isSurrogate_of_mem_chars hn

theorem loadText_textOf {p : Progress} (h : p.Fits limit) :
    loadText limit spoken (textOf p) = .progress p .none := by
  have hrestorable := Progress.restorable_toJson h
  have hparsed : Json.parseWithin limit (textOf p) = .ok p.toJson :=
    Json.parseWithin_pretty .required hrestorable
  rw [loadText_of_parsed hparsed, standInsOf_of_restorable spoken hrestorable,
    Json.withStandIns_of_restorable limit _ _ _ hrestorable, p.read_toJson]

theorem loadWithin_textOf {p : Progress} (h : p.Fits limit) :
    loadWithin limit spoken (some (.file (textOf p).toUTF8)) = .progress p .none := by
  rw [loadWithin_file, loadText_textOf spoken h]

end StateFile

/-- What is found where progress is kept. -/
def StateFile.Loaded.ofKept : Option Progress → Loaded
  | none => .nothing
  | some p => .progress p .none

namespace StateFile.Loaded

variable (kept : Option Progress)

theorem progress?_ofKept : (ofKept kept).progress? = .ok kept := by
  cases kept <;> rfl

theorem warnings_ofKept : (ofKept kept).warnings = 0 := by
  cases kept <;> rfl

end StateFile.Loaded

/-! ### The files -/

namespace Workspace

theorem lookup_cons_of_ne {path other : Path} (h : other ≠ path) (node : Node)
    (nodes : List (Path × Node)) :
    ((path, node) :: nodes).lookup other = nodes.lookup other := by
  rw [List.lookup_cons, beq_false_of_ne h]

theorem lookup_others_self (path : Path) (nodes : List (Path × Node)) :
    (nodes.filter fun n => n.1 != path).lookup path = none := by
  induction nodes with
  | nil => rfl
  | cons n nodes ih =>
    obtain ⟨q, node⟩ := n
    rw [List.filter_cons]
    split
    · rename_i hq
      rw [lookup_cons_of_ne (bne_iff_ne.mp hq).symm, ih]
    · exact ih

theorem lookup_others {path other : Path} (h : other ≠ path) (nodes : List (Path × Node)) :
    (nodes.filter fun n => n.1 != path).lookup other = nodes.lookup other := by
  induction nodes with
  | nil => rfl
  | cons n nodes ih =>
    obtain ⟨q, node⟩ := n
    rw [List.filter_cons]
    split
    · rw [List.lookup_cons, List.lookup_cons, ih]
    · rename_i hq
      obtain rfl : q = path := by simpa using hq
      rw [ih, lookup_cons_of_ne h]

/-- Neither the root, one of its usual directories, nor a directory above. -/
def Inside (path : Path) : Prop := (isAbove path || isRoot path) = false

instance (path : Path) : Decidable (Inside path) := inferInstanceAs (Decidable (_ = _))

theorem inside_dataDirectory : Inside dataDirectory := by decide

theorem inside_statePath : Inside statePath := by decide

theorem dataDirectory_ne_statePath : dataDirectory ≠ statePath := by decide

section Places
variable {w : Workspace} {path other : Path} {node : Node}

theorem find?_of_inside (h : Inside path) : w.find? path = w.nodes.lookup path := by
  rw [find?, h]
  rfl

theorem find?_congr {w' : Workspace} (h : w'.nodes.lookup path = w.nodes.lookup path) :
    w'.find? path = w.find? path := by
  rw [find?, find?, h]

theorem find?_put_self (h : Inside path) : (w.put path node).find? path = some node :=
  (find?_of_inside h).trans List.lookup_cons_self

theorem find?_put_of_ne (h : other ≠ path) : (w.put path node).find? other = w.find? other :=
  find?_congr ((lookup_cons_of_ne h _ _).trans (lookup_others h _))

theorem find?_erase_self (h : Inside path) : (w.erase path).find? path = none :=
  (find?_of_inside h).trans (lookup_others_self _ _)

theorem find?_erase_of_ne (h : other ≠ path) : (w.erase path).find? other = w.find? other :=
  find?_congr (lookup_others h _)

end Places

/-- The progress that is kept in a workspace; none where there is room for it. -/
inductive Keeps (limit : Json.DigitLimit) (w : Workspace) : Option Progress → Prop
  | nothing :
      w.find? statePath = none → (∀ bytes, w.find? dataDirectory ≠ some (.file bytes)) →
        Keeps limit w none
  | progress {p : Progress} :
      w.find? dataDirectory = some .directory →
      w.find? statePath = some (.file (StateFile.textOf p).toUTF8) → p.Fits limit →
        Keeps limit w (some p)

theorem keeps_empty (limit : Json.DigitLimit) : Keeps limit ⟨[]⟩ none := by
  refine .nothing (find?_of_inside inside_statePath) fun bytes => ?_
  rw [find?_of_inside inside_dataDirectory]
  exact nofun

section Keeping
variable {limit : Json.DigitLimit} {w : Workspace} {kept : Option Progress}

theorem stateFile_of_find? {node : Node} (hdirectory : w.find? dataDirectory = some .directory)
    (h : w.find? statePath = some node) : w.stateFile = some node := by
  rw [stateFile, isDirectory, hdirectory, h]
  rfl

theorem Keeps.stateFile_eq (h : Keeps limit w kept) :
    w.stateFile = kept.map fun p => .file (StateFile.textOf p).toUTF8 := by
  cases h with
  | nothing hfile _ =>
    rw [stateFile, hfile]
    split <;> rfl
  | progress hdirectory hfile _ => exact stateFile_of_find? hdirectory hfile

theorem Keeps.loadWithin_eq (h : Keeps limit w kept) (spoken : List Char) :
    w.stateFile.loadWithin limit spoken = .ofKept kept := by
  rw [h.stateFile_eq]
  cases h with
  | nothing => rfl
  | progress _ _ hfits => exact StateFile.loadWithin_textOf spoken hfits

theorem Keeps.ensureDirectory (h : Keeps limit w kept) :
    ∃ w', w.ensureDirectory dataDirectory = .ok w' ∧ Keeps limit w' kept ∧
      w'.find? dataDirectory = some .directory := by
  cases h with
  | nothing hfile hroom =>
    cases hdirectory : w.find? dataDirectory with
    | none =>
      -- The new directory is not the state file, which is still absent.
      refine ⟨w.put dataDirectory .directory, ?_, .nothing ?_ ?_, ?_⟩
      · rw [Workspace.ensureDirectory, hdirectory]
      · rw [find?_put_of_ne dataDirectory_ne_statePath.symm, hfile]
      · rw [find?_put_self inside_dataDirectory]
        exact fun _ h => Node.noConfusion (Option.some.inj h)
      · exact find?_put_self inside_dataDirectory
    | some node =>
      cases node with
      | file bytes => exact absurd hdirectory (hroom bytes)
      | directory =>
        refine ⟨w, ?_, .nothing hfile hroom, hdirectory⟩
        rw [Workspace.ensureDirectory, hdirectory]
  | progress hdirectory hfile hfits =>
    refine ⟨w, ?_, .progress hdirectory hfile hfits, hdirectory⟩
    rw [Workspace.ensureDirectory, hdirectory]

theorem Keeps.saveProgress (h : Keeps limit w kept) {p : Progress} (hfits : p.Fits limit) :
    ∃ w', w.saveProgress p = .ok w' ∧ Keeps limit w' (some p) := by
  obtain ⟨w', hensured, hkeeps, hdirectory⟩ := h.ensureDirectory
  have hwritten : w'.stateFile.save p = .ok (some (.file (StateFile.textOf p).toUTF8)) := by
    rw [hkeeps.stateFile_eq]
    cases kept <;> rfl
  refine ⟨w'.put statePath (.file (StateFile.textOf p).toUTF8), ?_, .progress ?_ ?_ hfits⟩
  · simp only [Workspace.saveProgress, hensured, hwritten, Bind.bind, Except.bind]
    rfl
  · rw [find?_put_of_ne dataDirectory_ne_statePath, hdirectory]
  · exact find?_put_self inside_statePath

theorem Keeps.clearProgress (h : Keeps limit w kept) :
    ∃ w', w.clearProgress = .ok w' ∧ Keeps limit w' none := by
  have hcleared : w.stateFile.clear = .ok none := by
    rw [h.stateFile_eq]
    cases kept <;> rfl
  refine ⟨w.erase statePath, ?_, .nothing (find?_erase_self inside_statePath) ?_⟩
  · simp only [Workspace.clearProgress, hcleared, Bind.bind, Except.bind]
    rfl
  · intro bytes
    rw [find?_erase_of_ne dataDirectory_ne_statePath]
    cases h with
    | nothing _ hroom => exact hroom bytes
    | progress hdirectory _ _ =>
      rw [hdirectory]
      exact fun h => Node.noConfusion (Option.some.inj h)

end Keeping

end Workspace

end DevEnv
