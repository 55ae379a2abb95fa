import DevEnv.Environment.Reader
import DevEnv.Environment.Writer
import DevEnv.Proofs.Validation.Reader

/-!
Which values describe an environment. A description is accepted exactly if there is a valid
environment that it describes, and the stored form of an environment describes that environment.
-/

namespace DevEnv

set_option autoImplicit false

open Outcome Checked Reader

/-! ### Rules -/

theorem BaseSystem.check_eq_ok_iff {name version : String} {s : BaseSystem} :
    check name version = .ok s ↔ name = s.name ∧ version = s.version := by
  constructor
  · intro h
    unfold check at h
    split at h
    · rw [← Except.ok.inj h]
      exact ⟨rfl, rfl⟩
    · split at h <;> cases h
  · rintro ⟨rfl, rfl⟩
    exact dif_pos s.offered

theorem Language.check_eq_ok_iff {name version : String} {l : Language} :
    check name version = .ok l ↔ name = l.name ∧ version = l.version := by
  constructor
  · intro h
    unfold check at h
    split at h
    · rw [← Except.ok.inj h]
      exact ⟨rfl, rfl⟩
    · split at h <;> cases h
  · rintro ⟨rfl, rfl⟩
    exact dif_pos l.offered

theorem SshAccess.check_eq_ok_iff {enabled : Bool} {port : Int} {password : String}
    {publicKey : Option String} {a : SshAccess} :
    check enabled port password publicKey = .ok a ↔
      enabled = a.enabled ∧ port = a.port ∧ password = a.password ∧ publicKey = a.publicKey := by
  constructor
  · intro h
    unfold check at h
    split at h
    · rw [← Except.ok.inj h]
      exact ⟨rfl, rfl, rfl, rfl⟩
    · split at h <;> cases h
  · rintro ⟨rfl, rfl, rfl, rfl⟩
    exact dif_pos a.usable

theorem Environment.checkLanguages_eq_ok_iff {ls : List Language} {checked : LanguageList} :
    checkLanguages ls = .ok checked ↔ ls = checked.1 := by
  constructor
  · intro h
    unfold checkLanguages at h
    split at h
    · rw [← Except.ok.inj h]
    · cases h
  · rintro rfl
    exact dif_pos checked.2

/-! ### Descriptions -/

/-- The value is this text. -/
def Spells (v : Json) (s : String) : Prop := v = .text s

/-- The value is a list of descriptions. -/
def Lists {α : Type} (R : Json → α → Prop) (v : Json) (as : List α) : Prop :=
  ∃ vs, v = .list vs ∧ List.Forall₂ R vs as

/-- A value that describes something by a name and a version. -/
def Names (nameKey : String) (v : Json) (name version : String) : Prop :=
  ∃ fs, v = .object fs ∧ fs.lookup nameKey = some (.text name) ∧
    fs.lookup "version" = some (.text version)

section Named
variable {α : Type} {kind nameKey : String} {check : String → String → Except Refusal α}

/-- Reading a name and a version under a rule that takes them as they are. -/
theorem named_eq_ok_iff {name version : α → String}
    (hcheck : ∀ {n v a}, check n v = .ok a ↔ n = name a ∧ v = version a) {v : Json} {a : α} :
    record kind (fun fs => (required nameKey text fs).both (required "version" text fs) >>= fun p =>
        ofRule (check p.1 p.2)) v = .ok a ↔ Names nameKey v (name a) (version a) := by
  rw [record_eq_ok_iff]
  refine exists_congr fun fs => and_congr_right fun _ => texts_eq_ok_iff.trans ?_
  simp only [hcheck]
  constructor
  · rintro ⟨_, _, hname, hversion, rfl, rfl⟩
    exact ⟨hname, hversion⟩
  · rintro ⟨hname, hversion⟩
    exact ⟨_, _, hname, hversion, rfl, rfl⟩

theorem explained_named (v : Json) :
    Explained (record kind (fun fs =>
      (required nameKey text fs).both (required "version" text fs) >>= fun p =>
        ofRule (check p.1 p.2)) v) := by
  refine explained_record (fun fs => Explained.bind ?_ fun _ => explained_ofRule _) v
  exact (explained_required explained_text _ fs).both (explained_required explained_text _ fs)

end Named

namespace BaseSystem

def DescribedBy (v : Json) (s : BaseSystem) : Prop := Names "type" v s.name s.version

theorem read_eq_ok_iff {v : Json} {s : BaseSystem} : read v = .ok s ↔ DescribedBy v s :=
  named_eq_ok_iff check_eq_ok_iff

end BaseSystem

namespace Language

def DescribedBy (v : Json) (l : Language) : Prop := Names "name" v l.name l.version

theorem read_eq_ok_iff {v : Json} {l : Language} : read v = .ok l ↔ DescribedBy v l :=
  named_eq_ok_iff check_eq_ok_iff

end Language

namespace SshAccess

/-- The fields describe access with these settings; the words for yes and no, and the spellings of
numbers, are those of `flag` and `integer`. -/
structure SettingsIn (fs : Fields) (a : SshAccess) : Prop where
  enabled : Optionally (fun v b => flag v = .ok b) false (fs.lookup "enabled") a.enabled
  port : Optionally (fun v n => integer v = .ok n) Catalog.defaultSshPort (fs.lookup "port") a.port
  password : Optionally Spells "" (fs.lookup "password") a.password
  publicKey : Optionally (Nullably Spells) none (fs.lookup "public_key") a.publicKey

def DescribedBy (v : Json) (a : SshAccess) : Prop := ∃ fs, v = .object fs ∧ SettingsIn fs a

theorem read_eq_ok_iff {v : Json} {a : SshAccess} : read v = .ok a ↔ DescribedBy v a := by
  rw [read, record_eq_ok_iff]
  refine exists_congr fun fs => and_congr_right fun _ => ?_
  simp only [bind_eq_ok_iff, both_eq_ok_iff, defaulted_eq_ok_iff, nullable_eq_ok_iff,
    text_eq_ok_iff, ofRule_eq_ok_iff, check_eq_ok_iff]
  constructor
  · rintro ⟨⟨_, _, _, _⟩, ⟨henabled, hport, hpassword, hkey⟩, rfl, rfl, rfl, rfl⟩
    exact ⟨henabled, hport, hpassword, hkey⟩
  · rintro ⟨henabled, hport, hpassword, hkey⟩
    exact ⟨(_, _, _, _), ⟨henabled, hport, hpassword, hkey⟩, rfl, rfl, rfl, rfl⟩

end SshAccess

namespace Environment

/-- The fields describe this environment. -/
structure SettingsIn (fs : Fields) (e : Environment) : Prop where
  name : Optionally (Nullably Spells) none (fs.lookup "name") e.name
  system : ∃ v, fs.lookup "os" = some v ∧ BaseSystem.DescribedBy v e.system
  languages : Optionally (Lists Language.DescribedBy) [] (fs.lookup "languages") e.languages
  ssh : Optionally (Nullably SshAccess.DescribedBy) none (fs.lookup "ssh") e.ssh

def DescribedBy (v : Json) (e : Environment) : Prop := ∃ fs, v = .object fs ∧ SettingsIn fs e

theorem readLanguages_eq_ok_iff {v : Json} {ls : LanguageList} :
    readLanguages v = .ok ls ↔ Lists Language.DescribedBy v ls.1 := by
  simp only [readLanguages, bind_eq_ok_iff, listOf_eq_ok_iff, ofRule_eq_ok_iff,
    checkLanguages_eq_ok_iff, Language.read_eq_ok_iff]
  constructor
  · rintro ⟨_, h, rfl⟩
    exact h
  · exact fun h => ⟨_, h, rfl⟩

/-- The rule on lists of languages takes nothing away from what is given. -/
theorem optionally_languages {o : Option Json} {ls : LanguageList} :
    Optionally (fun v (ls : LanguageList) => Lists Language.DescribedBy v ls.1)
        ⟨[], List.nodup_nil⟩ o ls ↔ Optionally (Lists Language.DescribedBy) [] o ls.1 := by
  obtain ⟨ls, hls⟩ := ls
  constructor
  · intro h
    cases h with
    | absent => exact .absent
    | given h => exact .given h
  · intro h
    cases h with
    | absent => exact .absent
    | given h => exact .given h

theorem read_eq_ok_iff {v : Json} {e : Environment} : read v = .ok e ↔ DescribedBy v e := by
  rw [read, record_eq_ok_iff]
  refine exists_congr fun fs => and_congr_right fun _ => ?_
  simp only [bind_eq_ok_iff, both_eq_ok_iff, defaulted_eq_ok_iff, required_eq_ok_iff,
    nullable_eq_ok_iff, text_eq_ok_iff, BaseSystem.read_eq_ok_iff, readLanguages_eq_ok_iff,
    SshAccess.read_eq_ok_iff, optionally_languages]
  constructor
  · rintro ⟨⟨_, _, ls, _⟩, ⟨hname, hsystem, hlanguages, hssh⟩, h⟩
    cases h
    exact ⟨hname, hsystem, hlanguages, hssh⟩
  · rintro ⟨hname, hsystem, hlanguages, hssh⟩
    exact ⟨(e.name, e.system, ⟨e.languages, e.distinct⟩, e.ssh),
      ⟨hname, hsystem, hlanguages, hssh⟩, rfl⟩

end Environment

namespace Progress

/-- The fields describe this progress. -/
structure SettingsIn (fs : Fields) (p : Progress) : Prop where
  step : Optionally (fun v n => integer v = .ok n) 1 (fs.lookup "current_step") p.step
  environment : ∃ v, fs.lookup "config" = some v ∧ Environment.DescribedBy v p.environment

def DescribedBy (v : Json) (p : Progress) : Prop := ∃ fs, v = .object fs ∧ SettingsIn fs p

theorem read_eq_ok_iff {v : Json} {p : Progress} : read v = .ok p ↔ DescribedBy v p := by
  rw [read, record_eq_ok_iff]
  refine exists_congr fun fs => and_congr_right fun _ => ?_
  simp only [bind_eq_ok_iff, both_eq_ok_iff, defaulted_eq_ok_iff, required_eq_ok_iff,
    Environment.read_eq_ok_iff]
  constructor
  · rintro ⟨⟨step, e⟩, ⟨hstep, henvironment⟩, h⟩
    cases h
    exact ⟨hstep, henvironment⟩
  · rintro ⟨hstep, henvironment⟩
    exact ⟨(p.step, p.environment), ⟨hstep, henvironment⟩, rfl⟩

end Progress

/-! ### Stored forms describe what they store -/

theorem nullably_ofText? (o : Option String) : Nullably Spells (.ofText? o) o := by
  cases o with
  | none => exact .null
  | some s => exact .given Json.noConfusion rfl

theorem BaseSystem.describedBy_toJson (s : BaseSystem) : DescribedBy s.toJson s :=
  ⟨_, rfl, rfl, rfl⟩

theorem Language.describedBy_toJson (l : Language) : DescribedBy l.toJson l := ⟨_, rfl, rfl, rfl⟩

theorem lists_map {α : Type} {R : Json → α → Prop} {toJson : α → Json}
    (describes : ∀ a, R (toJson a) a) (as : List α) : Lists R (.list (as.map toJson)) as := by
  refine ⟨_, rfl, ?_⟩
  rw [List.forall₂_map_left_iff]
  exact List.forall₂_same.mpr fun a _ => describes a

theorem lists_toJson (ls : List Language) :
    Lists Language.DescribedBy (.list (ls.map Language.toJson)) ls :=
  lists_map Language.describedBy_toJson ls

theorem SshAccess.describedBy_toJson (a : SshAccess) : DescribedBy a.toJson a :=
  ⟨_, rfl, .given rfl, .given rfl, .given rfl, .given (nullably_ofText? a.publicKey)⟩

theorem SshAccess.nullably_optionToJson (o : Option SshAccess) :
    Nullably DescribedBy (optionToJson o) o := by
  cases o with
  | none => exact .null
  | some a => exact .given Json.noConfusion a.describedBy_toJson

namespace Environment

theorem describedBy_toJson (e : Environment) : DescribedBy e.toJson e :=
  ⟨_, rfl, .given (nullably_ofText? e.name), ⟨_, rfl, e.system.describedBy_toJson⟩,
    .given (lists_toJson e.languages), .given (SshAccess.nullably_optionToJson e.ssh)⟩

/-- An environment is read back from its stored form. -/
theorem read_toJson (e : Environment) : read e.toJson = .ok e :=
  read_eq_ok_iff.mpr e.describedBy_toJson

end Environment

namespace Progress

theorem describedBy_toJson (p : Progress) : DescribedBy p.toJson p :=
  ⟨_, rfl, .given rfl, _, rfl, p.environment.describedBy_toJson⟩

theorem read_toJson (p : Progress) : read p.toJson = .ok p :=
  read_eq_ok_iff.mpr p.describedBy_toJson

end Progress

/-! ### Refusals name an issue -/

theorem BaseSystem.explained_read (v : Json) : Explained (read v) := explained_named v

theorem Language.explained_read (v : Json) : Explained (read v) := explained_named v

theorem SshAccess.explained_read (v : Json) : Explained (read v) := by
  refine explained_record (fun fs => Explained.bind ?_ fun _ => explained_ofRule _) v
  refine (explained_defaulted explained_flag _ _ fs).both ?_
  refine (explained_defaulted explained_integer _ _ fs).both ?_
  refine (explained_defaulted explained_text _ _ fs).both ?_
  exact explained_defaulted (explained_nullable explained_text) _ _ fs

theorem Environment.explained_readLanguages (v : Json) : Explained (readLanguages v) :=
  (explained_listOf Language.explained_read v).bind fun _ => explained_ofRule _

theorem Environment.explained_read (v : Json) : Explained (read v) := by
  refine explained_record (fun fs => Explained.bind ?_ fun _ => explained_ok _) v
  refine (explained_defaulted (explained_nullable explained_text) _ _ fs).both ?_
  refine (explained_required BaseSystem.explained_read _ fs).both ?_
  refine (explained_defaulted explained_readLanguages _ _ fs).both ?_
  exact explained_defaulted (explained_nullable SshAccess.explained_read) _ _ fs

end DevEnv
