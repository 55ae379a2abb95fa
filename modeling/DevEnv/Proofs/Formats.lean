import DevEnv.Proofs.Container.Reading
import DevEnv.Proofs.Environment.Wire

/-!
Formats in which values are kept and sent. A value is read back from what is written for it, so that
reading and writing again brings every accepted form to one that stays as it is.
-/

namespace DevEnv

set_option autoImplicit false

/-- Values as JSON, and how to read them. -/
structure Format (α ε : Type) where
  write : α → Json
  read : Json → Except ε α

namespace Format
variable {α ε : Type} {f : Format α ε}

/-- The form of a value that was read in some form. -/
def normalize (f : Format α ε) (v : Json) : Except ε Json := (f.read v).map f.write

structure Faithful (f : Format α ε) : Prop where
  restores : ∀ a, f.read (f.write a) = .ok a
  /-- Writing what was read loses nothing of it, in whatever form it came. -/
  settles : ∀ v a, f.read v = .ok a → f.read (f.write a) = .ok a
  idempotent : ∀ v w, f.normalize v = .ok w → f.normalize w = .ok w
  /-- The forms that stay as they are are those that are written. -/
  normal : ∀ w, f.normalize w = .ok w ↔ ∃ a, f.write a = w
  distinct : Function.Injective f.write

theorem faithful_of_restores (restores : ∀ a, f.read (f.write a) = .ok a) : f.Faithful := by
  have normal (a : α) : f.normalize (f.write a) = .ok (f.write a) := by
    rw [normalize, restores a]
    rfl
  refine ⟨restores, fun _ a _ => restores a, ?_, ?_, ?_⟩
  · intro v w h
    obtain ⟨a, -, rfl⟩ := Outcome.map_eq_ok_iff.mp h
    exact normal a
  · intro w
    constructor
    · intro h
      obtain ⟨a, -, written⟩ := Outcome.map_eq_ok_iff.mp h
      exact ⟨a, written⟩
    · rintro ⟨a, rfl⟩
      exact normal a
  · intro a b same
    have read := restores a
    rw [same, restores b] at read
    exact (Except.ok.inj read).symm

end Format

def Environment.stored : Format Environment (List Issue) := ⟨toJson, read⟩

def Environment.wired : Format Environment Environment.WireFault := ⟨toWire, ofWire⟩

def Progress.stored : Format Progress (List Issue) := ⟨toJson, read⟩

def Container.stored : Format Container (List Issue) := ⟨toJson, read⟩

theorem formats_faithful :
    Environment.wired.Faithful ∧ Environment.stored.Faithful ∧ Progress.stored.Faithful ∧
      Container.stored.Faithful :=
  ⟨Format.faithful_of_restores Environment.ofWire_toWire,
    Format.faithful_of_restores Environment.read_toJson,
    Format.faithful_of_restores Progress.read_toJson,
    Format.faithful_of_restores Container.read_toJson⟩

/-- A wire form with a word for yes, a port as text, an unknown key, and no name or languages. -/
example :
    (Environment.wired.normalize (.object [
      ("owner", .text "me"),
      ("os", .object [("version", .text "latest"), ("os_type", .text "alpine")]),
      ("ssh", .object [("port", .text "2200.0"), ("password", .text "secret"),
        ("enabled", .text "Yes")])])) =
    .ok (.object [
      ("name", .null),
      ("os", .object [("os_type", .text "alpine"), ("version", .text "latest")]),
      ("languages", .list []),
      ("ssh", .object [("enabled", .bool true), ("port", .integer 2200),
        ("password", .text "secret"), ("public_key", .null)])]) := by rfl

end DevEnv
