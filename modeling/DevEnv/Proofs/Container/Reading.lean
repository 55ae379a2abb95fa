import DevEnv.Container.Basic
import DevEnv.Proofs.Environment.Reading

/-!
Which values describe a container. As for environments, a description is accepted exactly if there is
a container that it describes, and the stored form of a container describes that container.
-/

namespace DevEnv

set_option autoImplicit false

open Outcome Checked Reader

/-- The value is this number, in one of its spellings. -/
def Counts (v : Json) (n : Int) : Prop := integer v = .ok n

theorem nullably_ofInteger? (o : Option Int) : Nullably Counts (.ofInteger? o) o := by
  cases o with
  | none => exact .null
  | some n => exact .given Json.noConfusion rfl

namespace RunState

theorem ofName?_eq_some_iff {s : String} {state : RunState} :
    ofName? s = some state ↔ s = state.name := by
  constructor
  · intro h
    have found := List.find?_some h
    exact (beq_iff_eq.mp found).symm
  · rintro rfl
    cases state <;> decide

def DescribedBy (v : Json) (state : RunState) : Prop := Spells v state.name

theorem read_eq_ok_iff {v : Json} {state : RunState} : read v = .ok state ↔ DescribedBy v state := by
  unfold DescribedBy Spells
  cases v with
  | text s =>
    simp only [read, Json.text.injEq, ← ofName?_eq_some_iff]
    cases ofName? s <;> simp [fail]
  | _ => simp [read, fail]

end RunState

namespace PortMapping

structure SettingsIn (fs : Fields) (p : PortMapping) : Prop where
  privatePort : ∃ v, fs.lookup "private_port" = some v ∧ Counts v p.privatePort
  publicPort : Optionally (Nullably Counts) none (fs.lookup "public_port") p.publicPort
  protocol : Optionally Spells "tcp" (fs.lookup "protocol") p.protocol

def DescribedBy (v : Json) (p : PortMapping) : Prop := ∃ fs, v = .object fs ∧ SettingsIn fs p

theorem read_eq_ok_iff {v : Json} {p : PortMapping} : read v = .ok p ↔ DescribedBy v p := by
  rw [read, record_eq_ok_iff]
  refine exists_congr fun fs => and_congr_right fun _ => ?_
  simp only [bind_eq_ok_iff, both_eq_ok_iff, required_eq_ok_iff, defaulted_eq_ok_iff,
    nullable_eq_ok_iff, text_eq_ok_iff]
  constructor
  · rintro ⟨⟨_, _, _⟩, ⟨hprivate, hpublic, hprotocol⟩, h⟩
    cases h
    exact ⟨hprivate, hpublic, hprotocol⟩
  · rintro ⟨hprivate, hpublic, hprotocol⟩
    exact ⟨(_, _, _), ⟨hprivate, hpublic, hprotocol⟩, rfl⟩

theorem describedBy_toJson (p : PortMapping) : DescribedBy p.toJson p :=
  ⟨_, rfl, ⟨_, rfl, rfl⟩, .given (nullably_ofInteger? p.publicPort), .given rfl⟩

end PortMapping

namespace Mount

structure SettingsIn (fs : Fields) (m : Mount) : Prop where
  source : Optionally Spells "" (fs.lookup "source") m.source
  destination : Optionally Spells "" (fs.lookup "destination") m.destination
  mode : Optionally Spells "" (fs.lookup "mode") m.mode

def DescribedBy (v : Json) (m : Mount) : Prop := ∃ fs, v = .object fs ∧ SettingsIn fs m

theorem read_eq_ok_iff {v : Json} {m : Mount} : read v = .ok m ↔ DescribedBy v m := by
  rw [read, record_eq_ok_iff]
  refine exists_congr fun fs => and_congr_right fun _ => ?_
  simp only [bind_eq_ok_iff, both_eq_ok_iff, defaulted_eq_ok_iff, text_eq_ok_iff]
  constructor
  · rintro ⟨⟨_, _, _⟩, ⟨hsource, hdestination, hmode⟩, h⟩
    cases h
    exact ⟨hsource, hdestination, hmode⟩
  · rintro ⟨hsource, hdestination, hmode⟩
    exact ⟨(_, _, _), ⟨hsource, hdestination, hmode⟩, rfl⟩

theorem describedBy_toJson (m : Mount) : DescribedBy m.toJson m :=
  ⟨_, rfl, .given rfl, .given rfl, .given rfl⟩

end Mount

namespace Container

/-- The fields describe this container. -/
structure SettingsIn (fs : Fields) (c : Container) : Prop where
  id : ∃ v, fs.lookup "id" = some v ∧ Spells v c.id
  name : ∃ v, fs.lookup "name" = some v ∧ Spells v c.name
  image : ∃ v, fs.lookup "image" = some v ∧ Spells v c.image
  state : Optionally RunState.DescribedBy .other (fs.lookup "state") c.state
  status : Optionally Spells "" (fs.lookup "status") c.status
  created : Optionally Counts 0 (fs.lookup "created") c.created
  ports : Optionally (Lists PortMapping.DescribedBy) [] (fs.lookup "ports") c.ports
  env : Optionally (Lists Spells) [] (fs.lookup "env") c.env
  mounts : Optionally (Lists Mount.DescribedBy) [] (fs.lookup "mounts") c.mounts

def DescribedBy (v : Json) (c : Container) : Prop := ∃ fs, v = .object fs ∧ SettingsIn fs c

theorem read_eq_ok_iff {v : Json} {c : Container} : read v = .ok c ↔ DescribedBy v c := by
  rw [read, record_eq_ok_iff]
  refine exists_congr fun fs => and_congr_right fun _ => ?_
  simp only [bind_eq_ok_iff, both_eq_ok_iff, required_eq_ok_iff, defaulted_eq_ok_iff,
    listOf_eq_ok_iff, text_eq_ok_iff, RunState.read_eq_ok_iff, PortMapping.read_eq_ok_iff,
    Mount.read_eq_ok_iff]
  constructor
  · rintro ⟨⟨_, _, _, _, _, _, _, _, _⟩,
      ⟨hid, hname, himage, hstate, hstatus, hcreated, hports, henv, hmounts⟩, h⟩
    cases h
    exact ⟨hid, hname, himage, hstate, hstatus, hcreated, hports, henv, hmounts⟩
  · rintro ⟨hid, hname, himage, hstate, hstatus, hcreated, hports, henv, hmounts⟩
    exact ⟨(_, _, _, _, _, _, _, _, _),
      ⟨hid, hname, himage, hstate, hstatus, hcreated, hports, henv, hmounts⟩, rfl⟩

theorem describedBy_toJson (c : Container) : DescribedBy c.toJson c :=
  ⟨_, rfl, ⟨_, rfl, rfl⟩, ⟨_, rfl, rfl⟩, ⟨_, rfl, rfl⟩, .given rfl, .given rfl, .given rfl,
    .given (lists_map PortMapping.describedBy_toJson c.ports),
    .given (lists_map (R := Spells) (fun _ => rfl) c.env),
    .given (lists_map Mount.describedBy_toJson c.mounts)⟩

/-- A container is read back from its stored form. -/
theorem read_toJson (c : Container) : read c.toJson = .ok c :=
  read_eq_ok_iff.mpr c.describedBy_toJson

end Container

end DevEnv
