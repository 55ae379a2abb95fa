import DevEnv.Proofs.Pipeline.Provenance

/-!
Requests on behalf of a valid environment. Its name is a text or none and its port a number, so that
nothing stands in the way of a tag, a container name or a published port.
-/

namespace DevEnv

set_option autoImplicit false

/-- A text that is given and not empty. -/
def given? : Option String → Option String
  | some s => if s = "" then none else some s
  | none => none

theorem ImageName.ofValue_ofText? (name : Option String) :
    ImageName.ofValue (.ofText? name) = .ok (given? name) := by
  cases name with
  | none => rfl
  | some s =>
    by_cases h : s = ""
    · subst h
      rfl
    · simp only [Json.ofText?, ImageName.ofValue, Json.isTruthy_text h, if_true, Json.textFor, given?, h, if_false]
      rfl

theorem ImageName.token_given? (name : Option String) :
    ImageName.token (given? name) = ImageName.token name := by
  have same : (given? name).getD "" = name.getD "" := by
    cases name with
    | none => rfl
    | some s =>
      by_cases h : s = ""
      · subst h
        rfl
      · simp [given?, h]
  unfold ImageName.token
  rw [same]

namespace Pipeline

variable {p : Pipeline} {e : Environment}

/-- What is given, or what the name of the environment gives for want of it. -/
theorem givenOr_toDraft (draft : p.draft = some e.toDraft) (given : Option String)
    (make : Option String → String) (alike : make (given? e.name) = make e.name) :
    p.givenOr given make = .ok ((given? given).getD (make e.name)) := by
  have named : p.nameOf = .ok (given? e.name) := by
    rw [nameOf, draft]
    exact ImageName.ofValue_ofText? e.name
  have derived : p.nameOf.map make = .ok (make e.name) := by
    rw [named, ← alike]
    rfl
  cases given with
  | none => exact derived
  | some s =>
    by_cases h : s = ""
    · subst h
      exact derived
    · simp [givenOr, given?, h]

theorem tagFor_toDraft (draft : p.draft = some e.toDraft) (given : Option String) :
    p.tagFor given = .ok ((given? given).getD (ImageName.tag e.name)) :=
  givenOr_toDraft draft given _ (by simp only [ImageName.tag, ImageName.token_given?])

theorem containerName_toDraft (draft : p.draft = some e.toDraft) (suffix : String)
    (given : Option String) :
    p.containerName suffix given =
      .ok ((given? given).getD (ImageName.container e.name suffix)) :=
  givenOr_toDraft draft given _ (by simp only [ImageName.container, ImageName.token_given?])

theorem publishedPorts_toDraft (e : Environment) :
    publishedPorts e.toDraft = .ok e.toDraft.portMap := by
  unfold publishedPorts Draft.portMap Environment.toDraft
  cases e.ssh with
  | none => rfl
  | some a =>
    cases enabled : a.enabled <;> simp only [Option.map_some, SshAccess.toDraft, enabled] <;> rfl

theorem runRequest_toDraft (draft : p.draft = some e.toDraft) (options : RunOptions)
    (suffix : String) :
    p.runRequest options suffix =
      .ok ⟨p.tag.getD "", (given? options.name).getD (ImageName.container e.name suffix),
        e.toDraft.portMap, options.env⟩ := by
  simp only [runRequest, draft, containerName_toDraft draft, publishedPorts_toDraft]
  rfl

end Pipeline

end DevEnv
