import DevEnv.Proofs.Environment.Validity
import DevEnv.Proofs.Json.Fault
import DevEnv.Workspace

/-!
What becomes of a state file, whatever stands in its place. A file of which nothing can be made is
ignored with a warning; one whose bytes spell no text, or whose text has too long an integer or too
many brackets, is a fault.
-/

namespace DevEnv.StateFile

set_option autoImplicit false

theorem fromUTF8?_eq_some_iff {bytes : ByteArray} {s : String} :
    String.fromUTF8? bytes = some s ↔ s.toUTF8 = bytes := by
  unfold String.fromUTF8?
  constructor
  · intro h
    split at h
    · rw [← Option.some.inj h]
      rfl
    · cases h
  · rintro rfl
    exact dif_pos s.isValidUTF8

theorem fromUTF8?_eq_none_iff {bytes : ByteArray} :
    String.fromUTF8? bytes = none ↔ ∀ s : String, s.toUTF8 ≠ bytes := by
  simp only [Option.eq_none_iff_forall_ne_some, ne_eq, fromUTF8?_eq_some_iff]

section Outcomes
variable (limit : Json.DigitLimit) (spoken : List Char)

/-- The stand-ins for the halves in a value. -/
def standInsOf (v : Json) : Text.StandIns := .avoiding (v.points ++ spoken.map Char.toNat)

/-- What the place of the state file comes to. -/
inductive Comes : StateFile → Loaded → Prop
  | nothing : Comes none .nothing
  | directory : Comes (some .directory) .ignored
  | undecodable {bytes : ByteArray} :
      (∀ s : String, s.toUTF8 ≠ bytes) → Comes (some (.file bytes)) (.failed .undecodable)
  | malformed {s : String} :
      Json.parseWithin limit s = .error .malformed → Comes (some (.file s.toUTF8)) .ignored
  | integerTooLong {s : String} :
      Json.parseWithin limit s = .error .integerTooLong →
        Comes (some (.file s.toUTF8)) (.failed .integerTooLong)
  | tooDeep {s : String} {isList : Bool} :
      Json.parseWithin limit s = .error (.tooDeep isList) →
        Comes (some (.file s.toUTF8)) (.failed (.tooDeep isList))
  | invalid {s : String} {v : Json} :
      Json.parseWithin limit s = .ok v →
      (∀ p, ¬ Progress.DescribedBy (v.withStandIns (standInsOf spoken v)) p) →
        Comes (some (.file s.toUTF8)) .ignored
  | progress {s : String} {v : Json} {p : Progress} :
      Json.parseWithin limit s = .ok v →
      Progress.DescribedBy (v.withStandIns (standInsOf spoken v)) p →
        Comes (some (.file s.toUTF8)) (.progress p (standInsOf spoken v))

variable {limit spoken}

theorem loadText_of_parsed {s : String} {v : Json} (h : Json.parseWithin limit s = .ok v) :
    loadText limit spoken s =
      match Progress.read (v.withStandIns (standInsOf spoken v)) with
      | .ok p => .progress p (standInsOf spoken v)
      | .error _ => .ignored := by
  rw [loadText, h]
  rfl

theorem comes_loadText (s : String) :
    Comes limit spoken (some (.file s.toUTF8)) (loadText limit spoken s) := by
  cases hparse : Json.parseWithin limit s with
  | ok v =>
    rw [loadText_of_parsed hparse]
    split
    · rename_i p hread
      exact .progress hparse (Progress.read_eq_ok_iff.mp hread)
    · rename_i issues hread
      refine .invalid hparse fun p hp => ?_
      rw [Progress.read_eq_ok_iff.mpr hp] at hread
      cases hread
  | error fault =>
    rw [loadText, hparse]
    cases fault with
    | malformed => exact .malformed hparse
    | integerTooLong => exact .integerTooLong hparse
    | tooDeep isList => exact .tooDeep hparse

theorem loadWithin_file (s : String) :
    loadWithin limit spoken (some (.file s.toUTF8)) = loadText limit spoken s := by
  rw [loadWithin, fromUTF8?_eq_some_iff.mpr rfl]

theorem comes_loadWithin (f : StateFile) : Comes limit spoken f (f.loadWithin limit spoken) := by
  cases f with
  | none => exact .nothing
  | some node =>
    cases node with
    | directory => exact .directory
    | file bytes =>
      cases htext : String.fromUTF8? bytes with
      | none =>
        rw [loadWithin, htext]
        exact .undecodable (fromUTF8?_eq_none_iff.mp htext)
      | some s =>
        obtain rfl := fromUTF8?_eq_some_iff.mp htext
        rw [loadWithin_file]
        exact comes_loadText s

theorem Comes.eq {f : StateFile} {r : Loaded} (h : Comes limit spoken f r) :
    f.loadWithin limit spoken = r := by
  cases h with
  | nothing => rfl
  | directory => rfl
  | undecodable h => rw [loadWithin, fromUTF8?_eq_none_iff.mpr h]
  | malformed h => rw [loadWithin_file, loadText, h]
  | integerTooLong h => rw [loadWithin_file, loadText, h]
  | tooDeep h => rw [loadWithin_file, loadText, h]
  | @invalid s v h hinvalid =>
    rw [loadWithin_file, loadText_of_parsed h]
    split
    · rename_i p hread
      exact absurd (Progress.read_eq_ok_iff.mp hread) (hinvalid p)
    · rfl
  | @progress s v p h hp =>
    rw [loadWithin_file, loadText_of_parsed h, Progress.read_eq_ok_iff.mpr hp]

theorem loadWithin_eq_iff {f : StateFile} {r : Loaded} :
    f.loadWithin limit spoken = r ↔ Comes limit spoken f r :=
  ⟨fun h => h ▸ comes_loadWithin f, Comes.eq⟩

end Outcomes

/-! ### Faults -/

/-- What is in a file that ends the program. -/
def Fault.CausedBy (limit : Json.DigitLimit) (bytes : ByteArray) : Fault → Prop
  | .undecodable => ∀ s : String, s.toUTF8 ≠ bytes
  | .integerTooLong =>
    ∃ s : String, s.toUTF8 = bytes ∧ ∃ ds, ds <:+: s.toList ∧ (∀ c ∈ ds, c.isDigit = true) ∧
      limit.allows ds.length = false
  | .tooDeep _ =>
    ∃ s : String, s.toUTF8 = bytes ∧ Json.maxDepth < s.toList.countP Json.isOpening

theorem Comes.causedBy {limit : Json.DigitLimit} {spoken : List Char} {f : StateFile}
    {fault : Fault} (h : Comes limit spoken f (.failed fault)) :
    ∃ bytes, f = some (.file bytes) ∧ fault.CausedBy limit bytes := by
  cases h with
  | undecodable h => exact ⟨_, rfl, h⟩
  | @integerTooLong s h => exact ⟨_, rfl, s, rfl, Json.causedBy_of_parseWithin h⟩
  | @tooDeep s isList h => exact ⟨_, rfl, s, rfl, Json.causedBy_of_parseWithin h⟩

theorem Comes.warnings {limit : Json.DigitLimit} {spoken : List Char} {f : StateFile} {r : Loaded}
    (h : Comes limit spoken f r) :
    r.warnings = if r.progress? = .ok none ∧ f.isSome then 1 else 0 := by
  cases h <;> rfl

/-- A state file comes to what its content says. It ends the program only for a cause in its bytes;
of no other can nothing be told. -/
theorem load_settled (spoken : List Char) (f : StateFile) :
    (∀ r, f.load spoken = r ↔ Comes .usual spoken f r) ∧
    (∀ fault, f.load spoken = .failed fault →
      ∃ bytes, f = some (.file bytes) ∧ fault.CausedBy .usual bytes) ∧
    ((f.load spoken).warnings =
      if (f.load spoken).progress? = .ok none ∧ f.isSome then 1 else 0) ∧
    ∀ kept, (f.load spoken).progress? = .ok kept → (environmentOf kept).Valid := by
  refine ⟨fun _ => loadWithin_eq_iff, fun fault h => ?_, ?_, fun kept _ => ?_⟩
  · exact (loadWithin_eq_iff.mp h).causedBy
  · exact (comes_loadWithin f).warnings
  · exact (environmentOf kept).valid

/-- A byte with which no character begins. -/
theorem load_loneByte :
    load [] (some (.file ⟨#[0xFF]⟩)) = .failed .undecodable ∧
      ∀ kept, (load [] (some (.file ⟨#[0xFF]⟩))).progress? ≠ .ok kept := by
  have hfailed : load [] (some (.file ⟨#[0xFF]⟩)) = .failed .undecodable := by rfl
  refine ⟨hfailed, fun kept h => ?_⟩
  rw [hfailed] at h
  cases h

/-- The same byte, and a directory in the place of the file. -/
theorem load_settled_unusable :
    (∀ s : String, s.toUTF8 ≠ ⟨#[0xFF]⟩) ∧ (load [] (some .directory)).warnings = 1 ∧
      (environmentOf none).Valid := by
  have hfailed : load [] (some (.file ⟨#[0xFF]⟩)) = .failed .undecodable := by rfl
  have hnone : (load [] (some .directory)).progress? = .ok none := rfl
  obtain ⟨-, hcaused, -⟩ := load_settled [] (some (.file ⟨#[0xFF]⟩))
  obtain ⟨bytes, hbytes, hcause⟩ := hcaused _ hfailed
  obtain ⟨-, -, hwarnings, hvalid⟩ := load_settled [] (some .directory)
  obtain rfl := Node.file.inj (Option.some.inj hbytes)
  exact ⟨hcause, hwarnings, hvalid none hnone⟩

end DevEnv.StateFile
