import DevEnv.Proofs.CommandLine.Deployment
import DevEnv.Proofs.Json.Halves

/-!
What a shown configuration tells. It tells all that is kept but for the password, of which it tells the
length: two configurations are shown alike exactly if they differ in nothing else, and what is shown
besides the password tells all other fields.
-/

namespace DevEnv

set_option autoImplicit false

/-! ### What is kept -/

/-- Remote access, with the code points of its texts. -/
structure KeptAccess where
  enabled : Bool
  port : Int
  password : List Nat
  publicKey : Option (List Nat)
deriving DecidableEq, Repr

/-- An environment, with the code points of its texts. -/
structure KeptEnvironment where
  name : Option (List Nat)
  system : BaseSystem
  languages : List Language
  ssh : Option KeptAccess
deriving DecidableEq, Repr

def SshAccess.kept (d : Text.StandIns) (a : SshAccess) : KeptAccess :=
  ⟨a.enabled, a.port, d.points a.password, a.publicKey.map d.points⟩

def Environment.kept (d : Text.StandIns) (e : Environment) : KeptEnvironment :=
  ⟨e.name.map d.points, e.system, e.languages, e.ssh.map (SshAccess.kept d)⟩

/-- All but the content of the password. -/
def KeptAccess.withoutPassword (a : KeptAccess) : KeptAccess := { a with password := [] }

namespace KeptEnvironment

def withoutPassword (k : KeptEnvironment) : KeptEnvironment :=
  { k with ssh := k.ssh.map KeptAccess.withoutPassword }

def passwordLength (k : KeptEnvironment) : Option Nat := k.ssh.map fun a => a.password.length

end KeptEnvironment

/-! ### What is shown of it -/

/-- A text by its code points, or null for none. -/
def Json.ofPoints? : Option (List Nat) → Json
  | some ns => .ofPoints ns
  | none => .null

/-- The value without a field. -/
def Json.erase (key : String) : Json → Json
  | .object fs => .object (fs.filter fun f => f.1 != key)
  | v => v

def KeptAccess.shown (a : KeptAccess) : Json :=
  .object [("enabled", .bool a.enabled), ("port", .integer a.port),
    ("password", .text ("".pushn '*' a.password.length)), ("public_key", .ofPoints? a.publicKey)]

def KeptAccess.shown? : Option KeptAccess → Json
  | some a => a.shown
  | none => .null

def KeptEnvironment.shown (k : KeptEnvironment) : Json := .object [
  ("name", .ofPoints? k.name), ("os", k.system.toJson),
  ("languages", .list (k.languages.map Language.toJson)), ("ssh", KeptAccess.shown? k.ssh)]

/-- What is shown without the field of the password. -/
def besidesPassword : Json → Json
  | .object fs => .object (fs.map fun f => if f.1 = "ssh" then (f.1, f.2.erase "password") else f)
  | v => v

/-! ### Shown texts that are read back -/

/-- All texts are such as are read back. -/
structure KeptEnvironment.Readable (k : KeptEnvironment) : Prop where
  name : ∀ ns, k.name = some ns → Text.Proper ns
  publicKey : ∀ a ns, k.ssh = some a → a.publicKey = some ns → Text.Proper ns

theorem Json.readsAt_ofPoints? {limit : DigitLimit} {depth : Nat} {o : Option (List Nat)}
    (h : ∀ ns, o = some ns → Text.Proper ns) : ReadsAt limit .nonAscii depth (.ofPoints? o) := by
  cases o with
  | none => exact readsAt_of_restorable trivial
  | some ns => exact readsAt_ofPoints (h ns rfl)

theorem Json.ofPoints?_inj {o o' : Option (List Nat)} (h : ∀ ns, o = some ns → Text.Proper ns)
    (h' : ∀ ns, o' = some ns → Text.Proper ns) : ofPoints? o = ofPoints? o' ↔ o = o' := by
  have text : ∀ ns, ofPoints ns ≠ .null := by
    intro ns
    unfold ofPoints
    cases textOfPoints? ns <;> exact Json.noConfusion
  cases o with
  | none =>
    cases o' with
    | none => exact iff_of_true rfl rfl
    | some ns => exact iff_of_false (fun same => text ns same.symm) nofun
  | some ns =>
    cases o' with
    | none => exact iff_of_false (text ns) nofun
    | some ms => exact (ofPoints_inj (h ns rfl) (h' ms rfl)).trans Option.some_inj.symm

theorem KeptAccess.readsAt_shown? {depth : Nat} {o : Option KeptAccess}
    (h : ∀ a ns, o = some a → a.publicKey = some ns → Text.Proper ns) :
    Json.ReadsAt none .nonAscii (depth + 1) (shown? o) := by
  cases o with
  | none => exact Json.readsAt_of_restorable trivial
  | some a =>
    have keys : ["enabled", "port", "password", "public_key"].Nodup := by decide
    refine Json.readsAt_object keys (Json.readsFieldsAt ?_)
    simp only [List.forall_mem_cons]
    exact ⟨Json.readsAt_of_restorable trivial, Json.readsAt_of_restorable rfl,
      Json.readsAt_of_restorable trivial, Json.readsAt_ofPoints? fun ns => h a ns rfl, nofun⟩

namespace KeptEnvironment
variable {k k' : KeptEnvironment}

theorem Readable.readsAt_shown (h : k.Readable) :
    Json.ReadsAt none .nonAscii Json.maxDepth k.shown := by
  have keys : ["name", "os", "languages", "ssh"].Nodup := by decide
  have system : Json.Restorable none 988 k.system.toJson := BaseSystem.restorable_toJson _ _
  have languages : Json.Restorable none 988 (.list (k.languages.map Language.toJson)) :=
    restorableItems_languages _ _
  refine Json.readsAt_object keys (Json.readsFieldsAt ?_)
  simp only [List.forall_mem_cons]
  exact ⟨Json.readsAt_ofPoints? h.name, Json.readsAt_of_restorable system,
    Json.readsAt_of_restorable languages, KeptAccess.readsAt_shown? h.publicKey, nofun⟩

end KeptEnvironment

/-! ### What can be told from it -/

theorem BaseSystem.toJson_inj {s s' : BaseSystem} : s.toJson = s'.toJson ↔ s = s' := by
  constructor
  · intro h
    cases s
    cases s'
    simpa [toJson] using h
  · exact congrArg toJson

theorem Language.toJson_inj {l l' : Language} : l.toJson = l'.toJson ↔ l = l' := by
  constructor
  · intro h
    cases l
    cases l'
    simpa [toJson] using h
  · exact congrArg toJson

theorem pushn_inj {c : Char} {m n : Nat} : "".pushn c m = "".pushn c n ↔ m = n := by
  constructor
  · intro h
    have lengths := congrArg (fun s => s.toList.length) h
    simpa only [Json.toList_pushn, List.length_replicate] using lengths
  · exact congrArg _

section Telling
variable {k k' : KeptEnvironment} {o o' : Option KeptAccess}

theorem KeptAccess.erase_shown (a : KeptAccess) : a.shown.erase "password" = .object [
    ("enabled", .bool a.enabled), ("port", .integer a.port),
    ("public_key", .ofPoints? a.publicKey)] := rfl

theorem KeptEnvironment.besidesPassword_shown (k : KeptEnvironment) :
    besidesPassword k.shown = .object [("name", .ofPoints? k.name), ("os", k.system.toJson),
      ("languages", .list (k.languages.map Language.toJson)),
      ("ssh", (KeptAccess.shown? k.ssh).erase "password")] := rfl

theorem KeptAccess.erase_shown?_inj
    (h : ∀ a ns, o = some a → a.publicKey = some ns → Text.Proper ns)
    (h' : ∀ a ns, o' = some a → a.publicKey = some ns → Text.Proper ns) :
    (shown? o).erase "password" = (shown? o').erase "password" ↔
      o.map withoutPassword = o'.map withoutPassword := by
  cases o with
  | none =>
    cases o' with
    | none => exact iff_of_true rfl rfl
    | some b => exact iff_of_false Json.noConfusion nofun
  | some a =>
    cases o' with
    | none => exact iff_of_false Json.noConfusion nofun
    | some b =>
      have key := Json.ofPoints?_inj (fun ns => h a ns rfl) fun ns => h' b ns rfl
      simp only [shown?, erase_shown, withoutPassword, Option.map_some, Option.some.injEq,
        KeptAccess.mk.injEq, Json.object.injEq, List.cons.injEq, Prod.mk.injEq, Json.bool.injEq,
        Json.integer.injEq, key, true_and, and_true]

theorem KeptEnvironment.besidesPassword_shown_inj (h : k.Readable) (h' : k'.Readable) :
    besidesPassword k.shown = besidesPassword k'.shown ↔ k.withoutPassword = k'.withoutPassword := by
  have languages : Function.Injective Language.toJson := fun _ _ => Language.toJson_inj.mp
  have ssh := KeptAccess.erase_shown?_inj h.publicKey h'.publicKey
  simp only [besidesPassword_shown, withoutPassword, KeptEnvironment.mk.injEq, Json.object.injEq,
    List.cons.injEq, Prod.mk.injEq, Json.list.injEq, Json.ofPoints?_inj h.name h'.name,
    BaseSystem.toJson_inj, languages.list_map.eq_iff, ssh, true_and, and_true]

theorem KeptAccess.shown?_eq_iff : shown? o = shown? o' ↔
    (shown? o).erase "password" = (shown? o').erase "password" ∧
      (o.map fun a => a.password.length) = o'.map fun a => a.password.length := by
  cases o with
  | none =>
    cases o' with
    | none => exact iff_of_true rfl ⟨rfl, rfl⟩
    | some b => exact iff_of_false Json.noConfusion fun same => nomatch same.2
  | some a =>
    cases o' with
    | none => exact iff_of_false Json.noConfusion fun same => nomatch same.2
    | some b =>
      rw [shown?, shown?, erase_shown, erase_shown]
      simp only [shown, Option.map_some, Option.some.injEq, Json.object.injEq, List.cons.injEq,
        Prod.mk.injEq, Json.text.injEq, pushn_inj, true_and, and_true]
      exact ⟨fun ⟨enabled, port, length, key⟩ => ⟨⟨enabled, port, key⟩, length⟩,
        fun ⟨⟨enabled, port, key⟩, length⟩ => ⟨enabled, port, length, key⟩⟩

/-- The password adds nothing but its length to what is shown. -/
theorem KeptEnvironment.shown_eq_iff : k.shown = k'.shown ↔
    besidesPassword k.shown = besidesPassword k'.shown ∧ k.passwordLength = k'.passwordLength := by
  rw [besidesPassword_shown, besidesPassword_shown]
  simp only [shown, passwordLength, KeptAccess.shown?_eq_iff, Json.object.injEq, List.cons.injEq,
    Prod.mk.injEq, true_and, and_true, and_assoc]

theorem KeptEnvironment.shown_inj (h : k.Readable) (h' : k'.Readable) :
    k.shown = k'.shown ↔
      k.withoutPassword = k'.withoutPassword ∧ k.passwordLength = k'.passwordLength := by
  rw [shown_eq_iff, besidesPassword_shown_inj h h']

end Telling

/-! ### From what is stored to what is shown -/

section Masking
variable {d : Text.StandIns} {points : List Nat}

open CommandLine

def Text.isAscii (s : String) : Bool := s.toList.all fun c => c.toNat < 0x80

/-- No stand-in is an ASCII character. -/
theorem withHalves_ascii (clear : d.Clear points) {s : String} (ascii : Text.isAscii s = true) :
    (Json.text s).withHalves d = .text s := by
  rw [Json.withHalves_text clear, Text.StandIns.points_of_whole, Json.ofPoints_toNat]
  intro c hc
  have low := of_decide_eq_true (List.all_eq_true.mp ascii c hc)
  have first := Text.firstPrivate_eq
  exact clear.half?_of_lt (by omega)

theorem withHalves_ofText? (clear : d.Clear points) (o : Option String) :
    (Json.ofText? o).withHalves d = .ofPoints? (o.map d.points) := by
  cases o with
  | none => rfl
  | some s => exact Json.withHalves_text clear s

theorem BaseSystem.withHalves_toJson (clear : d.Clear points) (s : BaseSystem) :
    s.toJson.withHalves d = s.toJson := by
  have listed : ∀ system ∈ Catalog.systems,
      Text.isAscii system.name = true ∧ ∀ v ∈ system.versions, Text.isAscii v = true := by
    decide +kernel
  obtain ⟨system, member, name, version⟩ := Catalog.mem_systems_of_offersSystem s.offered
  obtain ⟨ascii, all⟩ := listed system member
  rw [toJson, Json.withHalves, Json.fieldsWithHalves, Json.fieldsWithHalves,
    Json.fieldsWithHalves, withHalves_ascii clear (name ▸ ascii),
    withHalves_ascii clear (all _ version)]

theorem Language.withHalves_toJson (clear : d.Clear points) (l : Language) :
    l.toJson.withHalves d = l.toJson := by
  have listed : ∀ language ∈ Catalog.languages,
      Text.isAscii language.name = true ∧ ∀ v ∈ language.versions, Text.isAscii v = true := by
    decide +kernel
  obtain ⟨language, member, name, version⟩ := Catalog.mem_languages_of_offersLanguage l.offered
  obtain ⟨ascii, all⟩ := listed language member
  rw [toJson, Json.withHalves, Json.fieldsWithHalves, Json.fieldsWithHalves,
    Json.fieldsWithHalves, withHalves_ascii clear (name ▸ ascii),
    withHalves_ascii clear (all _ version)]

theorem itemsWithHalves_languages (clear : d.Clear points) (ls : List Language) :
    Json.itemsWithHalves d (ls.map Language.toJson) = ls.map Language.toJson := by
  induction ls with
  | nil => rfl
  | cons l ls ih => rw [List.map_cons, Json.itemsWithHalves, l.withHalves_toJson clear, ih]

theorem length_points (d : Text.StandIns) (s : String) : (d.points s).length = s.length := by
  rw [Text.StandIns.points, List.length_map, String.length_toList]

theorem isAscii_masked (password : String) : Text.isAscii (masked password) = true := by
  refine List.all_eq_true.mpr ?_
  intro c hc
  rw [masked, Json.toList_pushn] at hc
  rw [List.eq_of_mem_replicate hc]
  decide

theorem fieldsWithHalves_shown (clear : d.Clear points) (e : Environment) (v : Json) :
    Json.fieldsWithHalves d [("name", .ofText? e.name), ("os", e.system.toJson),
        ("languages", .list (e.languages.map Language.toJson)), ("ssh", v)] =
      [("name", .ofPoints? (e.name.map d.points)), ("os", e.system.toJson),
        ("languages", .list (e.languages.map Language.toJson)), ("ssh", v.withHalves d)] := by
  have languages : (Json.list (e.languages.map Language.toJson)).withHalves d =
      .list (e.languages.map Language.toJson) :=
    congrArg Json.list (itemsWithHalves_languages clear e.languages)
  simp only [Json.fieldsWithHalves, withHalves_ofText? clear, e.system.withHalves_toJson clear,
    languages]

theorem fieldsWithHalves_access (clear : d.Clear points) (a : SshAccess) :
    Json.fieldsWithHalves d [("enabled", .bool a.enabled), ("port", .integer a.port),
        ("password", .text (masked a.password)), ("public_key", .ofText? a.publicKey)] =
      [("enabled", .bool a.enabled), ("port", .integer a.port),
        ("password", .text (masked a.password)),
        ("public_key", .ofPoints? (a.publicKey.map d.points))] := by
  have enabled : (Json.bool a.enabled).withHalves d = .bool a.enabled := rfl
  have port : (Json.integer a.port).withHalves d = .integer a.port := rfl
  simp only [Json.fieldsWithHalves, withHalves_ofText? clear, enabled, port,
    withHalves_ascii clear (isAscii_masked a.password)]

/-- What is shown is made of the code points that are kept. -/
theorem withHalves_maskedJson (clear : d.Clear points) (e : Environment) :
    (maskedJson e).withHalves d = (e.kept d).shown := by
  unfold maskedJson Environment.kept KeptEnvironment.shown
  cases access : e.ssh with
  | none =>
    have fields := fieldsWithHalves_shown clear e .null
    refine congrArg Json.object ?_
    rw [Environment.fields, access]
    exact fields
  | some a =>
    have settings := fieldsWithHalves_access clear a
    have bound : ∀ v, Json.bind "ssh" v e.fields = [("name", .ofText? e.name),
        ("os", e.system.toJson), ("languages", .list (e.languages.map Language.toJson)),
        ("ssh", v)] := by
      intro v
      simp [Json.bind, Environment.fields]
    refine congrArg Json.object ?_
    rw [bound, fieldsWithHalves_shown clear, Json.withHalves, settings, masked,
      ← length_points d a.password]
    rfl

end Masking

/-! ### Texts that are stored -/

section Storing

open Reader

theorem exists_of_optionally {α : Type} {R : Json → α → Prop} {o : Option Json} {a : α}
    (h : Optionally (Nullably R) none o (some a)) : ∃ v, o = some v ∧ R v a := by
  cases h with
  | given h =>
    cases h with
    | given _ h => exact ⟨_, rfl, h⟩

/-- What is found is readable, as it was read. -/
theorem exists_clear_of_found {f : StateFile} {spoken : List Char} {p : Progress}
    {d : Text.StandIns} (h : f.load spoken = .progress p d) :
    ∃ points, d.Clear points ∧ (p.environment.kept d).Readable := by
  have comes : StateFile.Comes .usual spoken f (.progress p d) := StateFile.loadWithin_eq_iff.mp h
  cases comes with
  | @progress s v _ parsed described =>
    have mended := Json.mended_of_parseWithin parsed
    have clear := Text.StandIns.clear_avoiding (v.points ++ spoken.map Char.toNat)
    have listed : ∀ n ∈ v.points, n ∈ v.points ++ spoken.map Char.toNat :=
      fun n hn => List.mem_append_left _ hn
    have proper : ∀ u s, Json.Reaches v u →
        u.withStandIns (StateFile.standInsOf spoken v) = .text s →
          Text.Proper ((StateFile.standInsOf spoken v).points s) :=
      fun u s => Json.proper_points clear listed mended
    obtain ⟨fs, whole, settings⟩ := described
    obtain ⟨w, found, gs, config, fields⟩ := settings.environment
    obtain ⟨u, reached, rfl⟩ := Json.exists_field whole found
    refine ⟨_, clear, ?_, ?_⟩
    · intro ns hns
      obtain ⟨t, named, rfl⟩ := Option.map_eq_some_iff.mp hns
      obtain ⟨_, text, rfl⟩ := exists_of_optionally (named ▸ fields.name)
      obtain ⟨x, there, same⟩ := Json.exists_field config text
      exact proper x t (reached.trans there) same
    · intro a ns ha hns
      obtain ⟨b, access, rfl⟩ := Option.map_eq_some_iff.mp ha
      obtain ⟨t, key, rfl⟩ := Option.map_eq_some_iff.mp hns
      obtain ⟨_, field, hs, settled, options⟩ := exists_of_optionally (access ▸ fields.ssh)
      obtain ⟨x, there, rfl⟩ := Json.exists_field config field
      obtain ⟨_, text, rfl⟩ := exists_of_optionally (key ▸ options.publicKey)
      obtain ⟨y, inside, same⟩ := Json.exists_field settled text
      exact proper y t ((reached.trans there).trans inside) same

end Storing

/-! ### Showing it -/

namespace CommandLine

variable {σ : Type} {t : Session σ} {p : Progress} {d : Text.StandIns}

theorem run_load_of_progress (found : t.files.stateFile.load t.spoken = .progress p d) :
    (load : CommandM σ (Option Progress)).run.run t =
      (.ok (some p), { t with standIns := d }) := by
  rw [run_load t found]
  simp [StateFile.Loaded.progress?, StateFile.Loaded.standIns, StateFile.Loaded.warnings,
    Except.mapError]

/-- What is printed of an environment. -/
def configText (v : Json) : String := "Environment Configuration:\n" ++ (v.pretty .nonAscii ++ "\n")

theorem plain_configText (v : Json) : Plain (configText v) := by
  have heading : Plain "Environment Configuration:\n" := plain_literal rfl
  have stop : Plain "\n" := plain_literal rfl
  exact heading.append ((plain_indented v 0).append stop)

theorem run_showConfig (found : t.files.stateFile.load t.spoken = .progress p d) :
    (showConfig : CommandM σ Unit).run.run t =
      (.ok (), { t with
        standIns := d
        out := t.out ++ configText ((maskedJson p.environment).withHalves d) }) := by
  have again : (environment : CommandM σ Environment).run.run { t with standIns := d } =
      (.ok p.environment, { t with standIns := d }) := by
    rw [environment, run_bind_of_ok (run_load_of_progress (t := { t with standIns := d }) found)]
    rfl
  have heading : Plain ("Environment Configuration:" ++ "\n") := plain_literal rfl
  have json : Plain (((maskedJson p.environment).withHalves d).pretty .nonAscii ++ "\n") :=
    (plain_indented _ 0).append (plain_literal rfl)
  rw [showConfig, run_bind_of_ok (run_load_of_progress found)]
  simp only [Option.isNone_some, Bool.false_eq_true, if_false]
  rw [run_bind_of_ok again, run_bind_of_ok (run_echo _ _), run_bind_of_ok (run_get _), run_echo,
    json.withoutCodes_eq, heading.withoutCodes_eq, String.append_assoc]
  rfl

/-- What is printed of a configuration besides the password, as far as it is JSON. -/
def shownBesides (out : String) : Option Json :=
  match Json.parseWithin none (String.ofList (out.toList.dropWhile (· != '\n'))) with
  | .ok v => some (besidesPassword v)
  | .error _ => none

theorem parseWithin_configText {v : Json} (h : Json.ReadsAt none .nonAscii Json.maxDepth v) :
    Json.parseWithin none (String.ofList ((configText v).toList.dropWhile (· != '\n'))) = .ok v := by
  have dropped : (configText v).toList.dropWhile (· != '\n') =
      '\n' :: ((v.pretty .nonAscii).toList ++ ['\n']) := by
    unfold configText
    generalize v.pretty .nonAscii = s
    rw [String.toList_append, String.toList_append]
    rfl
  have stops : Json.EndsNumber ['\n'] := Json.endsNumber_cons [] (by decide)
  refine Json.parseWithin_of_readsAt h ?_ stops rfl
  rw [String.toList_ofList, dropped]
  exact ((h.begins 0).append ['\n']).skipSpace

/-- A run prints what is kept, and does nothing else. -/
theorem runProgram_showConfig {client : Daemon.Client σ} {setting : Setting} {daemon : σ}
    {w : Workspace} {args : List String} {points : List Nat}
    (asked : Invocation.read ⟨namesDirectory w, setting.valueOf?⟩ args = .ok .showConfig)
    (found : foundAt w args = .progress p d) (clear : d.Clear points) :
    runProgram client setting daemon w args =
      ⟨0, configText (p.environment.kept d).shown, "", [], none, daemon, w, []⟩ := by
  have runs := run_showConfig (t := .begin daemon w args) found
  have begins : (Session.begin daemon w args).out = "" := rfl
  rw [runProgram_of_read asked runs]
  simp only [Outcome.ofSession, begins, String.empty_append, (plain_configText _).printed_eq,
    withHalves_maskedJson clear]
  rfl

theorem shownBesides_configText {k : KeptEnvironment} (h : k.Readable) :
    shownBesides (configText k.shown) = some (besidesPassword k.shown) := by
  rw [shownBesides, parseWithin_configText h.readsAt_shown]

theorem configText_inj {k k' : KeptEnvironment} (h : k.Readable) (h' : k'.Readable) :
    configText k.shown = configText k'.shown ↔ k.shown = k'.shown := by
  constructor
  · intro same
    have read := parseWithin_configText h.readsAt_shown
    rw [same, parseWithin_configText h'.readsAt_shown] at read
    exact (Except.ok.inj read).symm
  · exact congrArg configText

/-- A run that succeeds, prints on its output channel only, and leaves everything as it was. -/
structure OnlyPrints (o : Outcome σ) (daemon : σ) (w : Workspace) : Prop where
  exit : o.exit = 0
  crash : o.crash = none
  err : o.err = ""
  shown : o.shown = []
  log : o.log = []
  daemon : o.daemon = daemon
  files : o.files = w

/-- Configurations are shown alike exactly if they differ in nothing but the password, and not in its
length; and what is shown besides the password is alike exactly if they differ in nothing else. -/
theorem password_concealed {τ : Type} {p' : Progress} {d' : Text.StandIns}
    (client : Daemon.Client σ) (setting : Setting) (daemon : σ) (w : Workspace) (args : List String)
    (asked : Invocation.read ⟨namesDirectory w, setting.valueOf?⟩ args = .ok .showConfig)
    (found : foundAt w args = .progress p d)
    (client' : Daemon.Client τ) (setting' : Setting) (daemon' : τ) (w' : Workspace)
    (args' : List String)
    (asked' : Invocation.read ⟨namesDirectory w', setting'.valueOf?⟩ args' = .ok .showConfig)
    (found' : foundAt w' args' = .progress p' d') :
    let o := runProgram client setting daemon w args
    let o' := runProgram client' setting' daemon' w' args'
    let k := p.environment.kept d
    let k' := p'.environment.kept d'
    OnlyPrints o daemon w ∧ OnlyPrints o' daemon' w' ∧
      (o.out = o'.out ↔
        k.withoutPassword = k'.withoutPassword ∧ k.passwordLength = k'.passwordLength) ∧
      (∃ v, shownBesides o.out = some v) ∧
      (shownBesides o.out = shownBesides o'.out ↔ k.withoutPassword = k'.withoutPassword) := by
  obtain ⟨points, clear, readable⟩ := exists_clear_of_found found
  obtain ⟨points', clear', readable'⟩ := exists_clear_of_found found'
  intro o o' k k'
  have shows : o = ⟨0, configText k.shown, "", [], none, daemon, w, []⟩ :=
    runProgram_showConfig asked found clear
  have shows' : o' = ⟨0, configText k'.shown, "", [], none, daemon', w', []⟩ :=
    runProgram_showConfig asked' found' clear'
  rw [shows, shows']
  refine ⟨⟨rfl, rfl, rfl, rfl, rfl, rfl, rfl⟩, ⟨rfl, rfl, rfl, rfl, rfl, rfl, rfl⟩, ?_, ?_, ?_⟩
  · exact (configText_inj readable readable').trans (KeptEnvironment.shown_inj readable readable')
  · exact ⟨_, shownBesides_configText readable⟩
  · rw [shownBesides_configText readable, shownBesides_configText readable', Option.some_inj]
    exact KeptEnvironment.besidesPassword_shown_inj readable readable'

/-- An environment with half a pair in its name, in which the word for a password also stands. -/
def secretJson (password : String) : Json := .object [("config", .object [
  ("name", .brokenText [115, 101, 99, 114, 101, 116, 0xD800]),
  ("os", .object [("type", .text "debian"), ("version", .text "bullseye")]),
  ("ssh", .object [("enabled", .bool true), ("port", .integer 2222),
    ("password", .text password)])])]

def secretSaved (password : String) : Workspace := holding ((secretJson password).pretty .nonAscii)

def secretStandIns (password : String) : Text.StandIns :=
  StateFile.standInsOf (["config", "show"].flatMap String.toList) (secretJson password)

def secretProgress (password : String) (usable : SshUsable 2222 password) : Progress where
  step := 1
  environment := {
    name := some ((secretStandIns password).text [115, 101, 99, 114, 101, 116, 0xD800])
    system := pythonLogin.system
    languages := []
    ssh := some ⟨true, 2222, password, none, fun _ => usable⟩
    distinct := List.nodup_nil }

theorem readsAt_secretJson (password : String) :
    Json.ReadsAt .usual .nonAscii Json.maxDepth (secretJson password) := by
  have proper : Text.Proper [115, 101, 99, 114, 101, 116, 0xD800] := ⟨by decide, by decide⟩
  have name : Json.ReadsAt .usual .nonAscii 987 (.brokenText [115, 101, 99, 114, 101, 116, 0xD800]) :=
    Json.readsAt_ofPoints proper
  have kind : ["type", "version"].Nodup := by decide
  have system : Json.ReadsAt .usual .nonAscii 987
      (.object [("type", .text "debian"), ("version", .text "bullseye")]) :=
    Json.readsAt_of_restorable ⟨kind, trivial, trivial, trivial⟩
  have options : ["enabled", "port", "password"].Nodup := by decide
  have port : Json.DigitLimit.usual.allows (Json.digitCount 2222) = true := by decide
  have ssh : Json.ReadsAt .usual .nonAscii 987 (.object [("enabled", .bool true),
      ("port", .integer 2222), ("password", .text password)]) :=
    Json.readsAt_of_restorable ⟨options, trivial, port, trivial, trivial⟩
  have fields : ["name", "os", "ssh"].Nodup := by decide
  refine Json.readsAt_object (List.nodup_singleton "config") (Json.readsFieldsAt ?_)
  refine List.forall_mem_singleton.mpr (Json.readsAt_object fields (Json.readsFieldsAt ?_))
  simp only [List.forall_mem_cons]
  exact ⟨name, system, ssh, nofun⟩

theorem foundAt_secretSaved (password : String) (usable : SshUsable 2222 password) :
    foundAt (secretSaved password) ["config", "show"] =
      .progress (secretProgress password usable) (secretStandIns password) := by
  have parsed : Json.parseWithin .usual ((secretJson password).pretty .nonAscii) =
      .ok (secretJson password) := (readsAt_secretJson password).parse
  have described : Progress.DescribedBy ((secretJson password).withStandIns (secretStandIns password))
      (secretProgress password usable) :=
    ⟨_, rfl, .absent, _, rfl, _, rfl, .given (.given Json.noConfusion rfl),
      ⟨_, rfl, _, rfl, rfl, rfl⟩, .absent, .given (.given Json.noConfusion
        ⟨_, rfl, .given rfl, .given rfl, .given rfl, .absent⟩)⟩
  rw [secretSaved, foundAt_holding, StateFile.loadText_of_parsed parsed]
  rw [secretStandIns] at described ⊢
  rw [Progress.read_eq_ok_iff.mpr described]

/-- The same stars for two passwords, and the first of them in the name. -/
theorem password_concealed_secret :
    let w := secretSaved "secret"
    let w' := secretSaved "hidden"
    let p := secretProgress "secret" (by decide)
    let p' := secretProgress "hidden" (by decide)
    Invocation.read ⟨namesDirectory w, Setting.plain.valueOf?⟩ ["config", "show"] =
        .ok .showConfig ∧
      Invocation.read ⟨namesDirectory w', Setting.plain.valueOf?⟩ ["config", "show"] =
        .ok .showConfig ∧
      foundAt w ["config", "show"] = .progress p (secretStandIns "secret") ∧
      foundAt w' ["config", "show"] = .progress p' (secretStandIns "hidden") ∧
      (runProgram absentDaemon .plain () w ["config", "show"]).out =
        (runProgram absentDaemon .plain () w' ["config", "show"]).out := by
  intro w w' p p'
  have asked : Invocation.read ⟨namesDirectory w, Setting.plain.valueOf?⟩ ["config", "show"] =
    .ok .showConfig := by decide +kernel
  have asked' : Invocation.read ⟨namesDirectory w', Setting.plain.valueOf?⟩ ["config", "show"] =
    .ok .showConfig := by decide +kernel
  have found := foundAt_secretSaved "secret" (by decide)
  have found' := foundAt_secretSaved "hidden" (by decide)
  have alike : (p.environment.kept (secretStandIns "secret")).withoutPassword =
      (p'.environment.kept (secretStandIns "hidden")).withoutPassword := by decide +kernel
  have length : (p.environment.kept (secretStandIns "secret")).passwordLength =
      (p'.environment.kept (secretStandIns "hidden")).passwordLength := by decide +kernel
  obtain ⟨-, -, same, -⟩ := password_concealed absentDaemon .plain () w ["config", "show"] asked
    found absentDaemon .plain () w' ["config", "show"] asked' found'
  exact ⟨asked, asked', found, found', same.mpr ⟨alike, length⟩⟩

end CommandLine

end DevEnv
