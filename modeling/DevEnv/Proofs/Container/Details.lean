import DevEnv.Proofs.Container.Ports

/-!
The ports in the details of a container. If the details are otherwise as an engine writes them, each
binding makes one port, in the order of the payload; they cannot be read exactly if some number of a
port that has bindings, or of a host port, is no literal.
-/

namespace DevEnv

set_option autoImplicit false

open Outcome Text

/-! ### Payloads of the expected form -/

namespace Payload

variable {v w default : Json} {key : String} {P : Json → Prop}

/-- The key is absent, or its value is of this form. -/
def Has (P : Json → Prop) (v : Json) (key : String) : Prop := ∀ w, v.get? key = some w → P w

def OrNull (P : Json → Prop) (v : Json) : Prop := v = .null ∨ P v

def IsText (v : Json) : Prop := ∃ s, v = .text s

def IsList (P : Json → Prop) (v : Json) : Prop := ∃ vs, v = .list vs ∧ ∀ w ∈ vs, P w

def IsObject (P : Json → Prop) (v : Json) : Prop := (∃ fs, v = .object fs) ∧ P v

theorem has_nil (P : Json → Prop) (key : String) : Has P (.object []) key := nofun

theorem getOr_object (fs : List (String × Json)) (key : String) (default : Json) :
    getOr (.object fs) key default = .ok ((fs.lookup key).getD default) := rfl

theorem getFilled_object (fs : List (String × Json)) (key : String) (default : Json) :
    getFilled (.object fs) key default = .ok (match fs.lookup key with
      | some w => if w.isTruthy then w else default
      | none => default) := rfl

theorem exists_object (h : v.get? key = some w) : ∃ fs, v = .object fs := by
  cases v with
  | object fs => exact ⟨fs, rfl⟩
  | _ => cases h

theorem getFilled_eq (default : Json) (there : v.get? key = some w) (filled : w.isTruthy = true) :
    getFilled v key default = .ok w := by
  obtain ⟨fs, rfl⟩ := exists_object there
  rw [getFilled_object, show fs.lookup key = some w from there]
  exact congrArg Except.ok (if_pos filled)

theorem exists_getOr (object : ∃ fs, v = .object fs) (has : Has P v key) (usual : P default) :
    ∃ w, getOr v key default = .ok w ∧ P w := by
  obtain ⟨fs, rfl⟩ := object
  refine ⟨(fs.lookup key).getD default, rfl, ?_⟩
  cases found : fs.lookup key with
  | none => exact usual
  | some w => exact has w found

theorem exists_getFilled (object : ∃ fs, v = .object fs) (has : Has (OrNull P) v key)
    (usual : P default) : ∃ w, getFilled v key default = .ok w ∧ P w := by
  obtain ⟨fs, rfl⟩ := object
  cases found : fs.lookup key with
  | none => exact ⟨default, by rw [getFilled_object, found], usual⟩
  | some w =>
    refine ⟨if w.isTruthy then w else default, by rw [getFilled_object, found], ?_⟩
    split
    · rename_i filled
      rcases has w found with rfl | form
      · cases filled
      · exact form
    · exact usual

theorem exists_texts {vs : List Json} (texts : ∀ w ∈ vs, IsText w) : ∃ ss, .list vs = Json.ofTexts ss := by
  induction vs with
  | nil => exact ⟨[], rfl⟩
  | cons v vs ih =>
    obtain ⟨s, rfl⟩ := texts v List.mem_cons_self
    obtain ⟨ss, same⟩ := ih fun w hw => texts w (.tail _ hw)
    exact ⟨s :: ss, congrArg (fun ws => Json.list (.text s :: ws)) (Json.list.inj same)⟩

end Payload

open Payload

namespace Container

/-- Apart from the ports, the details have the form that an engine writes: what is there has the
expected type, and null stands only where it counts as absent. -/
structure WellTyped (v : Json) : Prop where
  id : Has IsText v "Id"
  name : Has (OrNull IsText) v "Name"
  created : Has (OrNull IsText) v "Created"
  state : Has (OrNull (IsObject fun w => Has (OrNull IsText) w "Status")) v "State"
  config : Has (OrNull (IsObject fun w =>
    Has IsText w "Image" ∧ Has (OrNull (IsList IsText)) w "Env")) v "Config"
  mounts : Has (OrNull (IsList (IsObject fun w =>
    Has IsText w "Source" ∧ Has IsText w "Destination" ∧ Has IsText w "Mode"))) v "Mounts"

/-- The host port that a binding names; an empty one counts as none. -/
inductive NamesHost : Json → Option String → Prop
  | absent {fs : List (String × Json)} :
      fs.lookup "HostPort" = none → NamesHost (.object fs) none
  | null {fs : List (String × Json)} :
      fs.lookup "HostPort" = some .null → NamesHost (.object fs) none
  | empty {fs : List (String × Json)} :
      fs.lookup "HostPort" = some (.text "") → NamesHost (.object fs) none
  | given {fs : List (String × Json)} {s : String} :
      fs.lookup "HostPort" = some (.text s) → s ≠ "" → NamesHost (.object fs) (some s)

/-- The bindings of all ports in their order, each with the key under which it stands. -/
inductive Binds : List (String × Json) → List (String × Option String) → Prop
  | nil : Binds [] []
  | null {key : String} {ports : List (String × Json)} {rest : List (String × Option String)} :
      Binds ports rest → Binds ((key, .null) :: ports) rest
  | list {key : String} {bs : List Json} {hosts : List (Option String)}
      {ports : List (String × Json)} {rest : List (String × Option String)} :
      List.Forall₂ NamesHost bs hosts → Binds ports rest →
        Binds ((key, .list bs) :: ports) (hosts.map (fun host => (key, host)) ++ rest)

/-- The text of a key in front of its first slash, and the text behind it. -/
inductive Cut : String → String → String → Prop
  | slash {key front back : String} : key.toList = front.toList ++ '/' :: back.toList →
      '/' ∉ front.toList → Cut key front back
  | plain {key : String} : '/' ∉ key.toList → Cut key key ""

/-- A binding under its key makes this port. -/
inductive Publishes : String × Option String → PortMapping → Prop
  | intro {key front back : String} {host : Option String} {inner : Int} {outer : Option Int} :
      Cut key front back → Literal front.toList inner →
      Option.Rel (fun s n => Literal s.toList n) host outer →
      Publishes (key, host) ⟨inner, outer, if back = "" then "tcp" else back⟩

/-- The port in front of the slash, or the host port, is no literal. -/
inductive Unreadable : String × Option String → Prop
  | inner {key front back : String} {host : Option String} :
      Cut key front back → (∀ n, ¬ Literal front.toList n) → Unreadable (key, host)
  | outer {key s : String} : (∀ n, ¬ Literal s.toList n) → Unreadable (key, some s)

theorem exists_namesHost {b : Json} (h : IsObject (fun w => Has (OrNull IsText) w "HostPort") b) :
    ∃ host, NamesHost b host := by
  obtain ⟨⟨fs, rfl⟩, form⟩ := h
  cases found : fs.lookup "HostPort" with
  | none => exact ⟨_, .absent found⟩
  | some w =>
    rcases form w found with rfl | ⟨s, rfl⟩
    · exact ⟨_, .null found⟩
    · by_cases empty : s = ""
      · subst empty
        exact ⟨_, .empty found⟩
      · exact ⟨_, .given found empty⟩

theorem exists_hosts {bs : List Json}
    (h : ∀ b ∈ bs, IsObject (fun w => Has (OrNull IsText) w "HostPort") b) :
    ∃ hosts, List.Forall₂ NamesHost bs hosts := by
  induction bs with
  | nil => exact ⟨[], .nil⟩
  | cons b bs ih =>
    obtain ⟨host, first⟩ := exists_namesHost (h b List.mem_cons_self)
    obtain ⟨hosts, others⟩ := ih fun b hb => h b (.tail _ hb)
    exact ⟨host :: hosts, .cons first others⟩

/-- The bindings can be listed if the value of each port is null or a list of bindings whose host
port is absent, null or a text. -/
theorem exists_binds {ports : List (String × Json)} (h : ∀ port ∈ ports,
    OrNull (IsList (IsObject fun w => Has (OrNull IsText) w "HostPort")) port.2) :
    ∃ entries, Binds ports entries := by
  induction ports with
  | nil => exact ⟨[], .nil⟩
  | cons port ports ih =>
    obtain ⟨key, value⟩ := port
    obtain ⟨rest, others⟩ := ih fun port hp => h port (.tail _ hp)
    rcases h (key, value) List.mem_cons_self with rfl | ⟨bs, rfl, objects⟩
    · exact ⟨rest, .null others⟩
    · obtain ⟨hosts, named⟩ := exists_hosts objects
      exact ⟨_, .list named others⟩

/-! ### One binding -/

/-- A key is cut where it is split. -/
theorem cut_iff {key front back : String} :
    Cut key front back ↔ splitPortKey key = (front, back) := by
  have parts : splitPortKey key = (String.ofList (key.toList.takeWhile (· != '/')),
      String.ofList (key.toList.dropWhile (· != '/')).tail) := by
    rw [splitPortKey, List.span_eq_takeWhile_dropWhile]
  have other : ∀ {cs : List Char}, '/' ∉ cs → ∀ c ∈ cs, (c != '/') = true := by
    intro cs none c hc
    rw [bne_iff_ne]
    rintro rfl
    exact none hc
  rw [parts]
  constructor
  · rintro (⟨whole, none⟩ | none)
    · rw [whole, List.takeWhile_append_of_pos (other none), List.dropWhile_append_of_pos (other none)]
      simp
    · rw [List.takeWhile_eq_self_iff.mpr (other none), List.dropWhile_eq_nil_iff.mpr (other none)]
      simp
  · intro h
    obtain ⟨rfl, rfl⟩ := Prod.mk.inj h
    have none : '/' ∉ key.toList.takeWhile (· != '/') := by
      intro slash
      exact absurd (List.mem_takeWhile_imp slash) (by decide)
    have whole := List.takeWhile_append_dropWhile (p := (· != '/')) (l := key.toList)
    cases rest : key.toList.dropWhile (· != '/') with
    | nil =>
      rw [rest, List.append_nil] at whole
      rw [whole] at none ⊢
      rw [String.ofList_toList]
      exact .plain none
    | cons c cs =>
      have first := List.head_dropWhile_not (· != '/') (l := key.toList) (by simp [rest])
      obtain rfl : c = '/' := by simpa [rest] using first
      refine .slash ?_ ?_
      · rw [String.toList_ofList, String.toList_ofList, List.tail_cons, ← rest, whole]
      · rwa [String.toList_ofList]

/-- The number that a text spells. -/
def number (s : String) : Result Int :=
  match integer? s with
  | some n => .ok n
  | none => .error .unreadableInteger

theorem number_eq_ok_iff {s : String} {n : Int} : number s = .ok n ↔ Literal s.toList n := by
  rw [← integer?_eq_some_iff, number]
  cases integer? s with
  | none => exact iff_of_false nofun nofun
  | some m => rw [Except.ok.injEq, Option.some.injEq]

theorem number_eq_error_iff {s : String} {fault : PayloadFault} :
    number s = .error fault ↔ fault = .unreadableInteger ∧ ∀ n, ¬ Literal s.toList n := by
  simp only [← integer?_eq_some_iff]
  unfold number
  cases integer? s with
  | none =>
    rw [Except.error.injEq, eq_comm]
    exact (and_iff_left nofun).symm
  | some m => exact iff_of_false nofun fun h => h.2 m rfl

/-- The number of a host port, if one is named. -/
def hostNumber : Option String → Result (Option Int)
  | none => .ok none
  | some s => (number s).map some

/-- The port that a binding makes. -/
def portOf (entry : String × Option String) : Result PortMapping := do
  let inner ← number (splitPortKey entry.1).1
  let outer ← hostNumber entry.2
  return ⟨inner, outer, if (splitPortKey entry.1).2.isEmpty then "tcp" else (splitPortKey entry.1).2⟩

theorem hostPort_of_namesHost {b : Json} {host : Option String} (h : NamesHost b host) :
    ∃ w, getOr b "HostPort" .null = .ok w ∧ hostPort w = hostNumber host := by
  cases h with
  | @absent fs found => exact ⟨.null, by rw [getOr_object, found]; rfl, rfl⟩
  | @null fs found => exact ⟨.null, by rw [getOr_object, found]; rfl, rfl⟩
  | @empty fs found => exact ⟨.text "", by rw [getOr_object, found]; rfl, rfl⟩
  | @given fs s found filled =>
    refine ⟨.text s, by rw [getOr_object, found]; rfl, ?_⟩
    rw [hostPort, if_pos (Json.isTruthy_text filled), hostNumber, number]
    cases integer? s <;> rfl

theorem binding_eq {key : String} {b : Json} {host : Option String} (h : NamesHost b host) :
    binding key b = portOf (key, host) := by
  obtain ⟨w, got, same⟩ := hostPort_of_namesHost h
  simp only [binding, portOf, got, number]
  cases integer? (splitPortKey key).1 with
  | none => rfl
  | some n => simp only [bind, Except.bind, same]

theorem hostNumber_eq_ok_iff {host : Option String} {outer : Option Int} :
    hostNumber host = .ok outer ↔ Option.Rel (fun s n => Literal s.toList n) host outer := by
  cases host with
  | none =>
    constructor
    · intro h
      obtain rfl := Except.ok.inj h
      exact .none
    · intro h
      cases h
      rfl
  | some s =>
    rw [hostNumber, map_eq_ok_iff]
    constructor
    · rintro ⟨n, read, rfl⟩
      exact .some (number_eq_ok_iff.mp read)
    · intro h
      cases h with
      | some literal => exact ⟨_, number_eq_ok_iff.mpr literal, rfl⟩

theorem portOf_eq_ok_iff {entry : String × Option String} {p : PortMapping} :
    portOf entry = .ok p ↔ Publishes entry p := by
  obtain ⟨key, host⟩ := entry
  have cut : Cut key (splitPortKey key).1 (splitPortKey key).2 := cut_iff.mpr rfl
  simp only [portOf, bind_eq_ok_iff, number_eq_ok_iff, hostNumber_eq_ok_iff,
    String.isEmpty_iff]
  constructor
  · rintro ⟨inner, literal, outer, hosted, made⟩
    obtain rfl := Except.ok.inj made
    exact .intro cut literal hosted
  · rintro ⟨cut', literal, hosted⟩
    rw [cut_iff.mp cut']
    exact ⟨_, literal, _, hosted, rfl⟩

theorem hostNumber_eq_error_iff {host : Option String} {fault : PayloadFault} :
    hostNumber host = .error fault ↔
      ∃ s, host = some s ∧ fault = .unreadableInteger ∧ ∀ n, ¬ Literal s.toList n := by
  cases host with
  | none => exact iff_of_false nofun nofun
  | some s =>
    rw [hostNumber, map_eq_error_iff, number_eq_error_iff]
    simp only [Option.some.injEq, exists_eq_left']

theorem portOf_eq_error_iff {entry : String × Option String} {fault : PayloadFault} :
    portOf entry = .error fault ↔ fault = .unreadableInteger ∧ Unreadable entry := by
  obtain ⟨key, host⟩ := entry
  have cut : Cut key (splitPortKey key).1 (splitPortKey key).2 := cut_iff.mpr rfl
  simp only [portOf, bind_eq_error_iff, number_eq_error_iff, hostNumber_eq_error_iff]
  constructor
  · rintro (⟨rfl, none⟩ | ⟨inner, -, ⟨s, rfl, rfl, none⟩ | ⟨outer, -, impossible⟩⟩)
    · exact ⟨rfl, .inner cut none⟩
    · exact ⟨rfl, .outer none⟩
    · cases impossible
  · rintro ⟨rfl, unreadable⟩
    cases inner : number (splitPortKey key).1 with
    | error fault => exact .inl ⟨rfl, (number_eq_error_iff.mp inner).2⟩
    | ok n =>
      refine .inr ⟨n, rfl, .inl ?_⟩
      cases unreadable with
      | inner cut' none =>
        have literal := number_eq_ok_iff.mp inner
        rw [cut_iff.mp cut'] at literal
        exact absurd literal (none n)
      | outer none => exact ⟨_, rfl, rfl, none⟩

/-! ### All bindings -/

theorem mapM_binding {key : String} {bs : List Json} {hosts : List (Option String)}
    (named : List.Forall₂ NamesHost bs hosts) :
    bs.mapM (binding key) = (hosts.map fun host => (key, host)).mapM portOf := by
  induction named with
  | nil => rfl
  | cons first _ ih => rw [List.map_cons, List.mapM_cons, List.mapM_cons, ih, binding_eq first]

theorem portBindings_list (key : String) (bs : List Json) :
    portBindings (key, .list bs) = bs.mapM (binding key) := by
  cases bs with
  | nil => rfl
  | cons b bs => rfl

/-- The ports are those of the bindings, one by one. -/
theorem mapM_portBindings {ports : List (String × Json)} {entries : List (String × Option String)}
    (binds : Binds ports entries) :
    (ports.mapM portBindings).map List.flatten = entries.mapM portOf := by
  induction binds with
  | nil => rfl
  | @null key ports rest _ ih =>
    have nothing : portBindings (key, .null) = .ok [] := rfl
    rw [List.mapM_cons, nothing, ← ih]
    cases ports.mapM portBindings <;> rfl
  | @list key bs hosts ports rest named _ ih =>
    rw [List.mapM_cons, portBindings_list, List.mapM_append, mapM_binding named, ← ih]
    cases (hosts.map fun host => (key, host)).mapM portOf with
    | error fault => rfl
    | ok first => cases ports.mapM portBindings <;> rfl

theorem publishedPorts_eq {network : Json} {ports : List (String × Json)}
    {entries : List (String × Option String)}
    (listed : network.get? "Ports" = some (.object ports)) (binds : Binds ports entries) :
    publishedPorts network = entries.mapM portOf := by
  have filled : getFilled network "Ports" (.object []) = .ok (.object ports) := by
    obtain ⟨fs, rfl⟩ := exists_object listed
    rw [getFilled_object, show fs.lookup "Ports" = some (.object ports) from listed]
    cases ports <;> rfl
  have flattened : publishedPorts network =
      (do return (← ports.mapM portBindings).flatten) := by
    rw [publishedPorts, filled]
    rfl
  rw [flattened, ← mapM_portBindings binds]
  cases ports.mapM portBindings <;> rfl

/-! ### The other fields -/

theorem exists_detailMount {v : Json} (object : ∃ fs, v = .object fs) (source : Has IsText v "Source")
    (destination : Has IsText v "Destination") (mode : Has IsText v "Mode") :
    ∃ m, detailMount v = .ok m := by
  obtain ⟨_, gotSource, source, rfl⟩ := exists_getOr object source ⟨"", rfl⟩
  obtain ⟨_, gotDestination, destination, rfl⟩ := exists_getOr object destination ⟨"", rfl⟩
  obtain ⟨_, gotMode, mode, rfl⟩ := exists_getOr object mode ⟨"", rfl⟩
  refine ⟨⟨source, destination, mode⟩, ?_⟩
  simp only [detailMount, gotSource, gotDestination, gotMode, bind, Except.bind]
  exact mapError_eq_ok_iff.mpr (Mount.read_eq_ok_iff.mpr (Mount.describedBy_toJson ⟨source, destination, mode⟩))

theorem exists_stateOf {v : Json} (h : IsText v) : ∃ state, stateOf v = .ok state := by
  obtain ⟨s, rfl⟩ := h
  unfold stateOf
  split
  · exact ⟨_, rfl⟩
  · exact ⟨_, rfl⟩

theorem exists_createdAt {v : Json} (h : OrNull IsText v) : ∃ seconds, createdAt v = .ok seconds := by
  rcases h with rfl | ⟨s, rfl⟩
  · exact ⟨0, rfl⟩
  · unfold createdAt
    split
    · exact ⟨_, rfl⟩
    · exact ⟨_, rfl⟩

theorem exists_mounts {v : Json} (h : IsList (IsObject fun w =>
    Has IsText w "Source" ∧ Has IsText w "Destination" ∧ Has IsText w "Mode") v) :
    ∃ vs ms, items v = .ok vs ∧ vs.mapM detailMount = .ok ms := by
  obtain ⟨vs, rfl, objects⟩ := h
  refine ⟨vs, ?_⟩
  suffices made : ∃ ms, vs.mapM detailMount = .ok ms from made.imp fun ms read => ⟨rfl, read⟩
  induction vs with
  | nil => exact ⟨[], rfl⟩
  | cons v vs ih =>
    obtain ⟨object, source, destination, mode⟩ := objects v List.mem_cons_self
    obtain ⟨m, first⟩ := exists_detailMount object source destination mode
    obtain ⟨ms, others⟩ := ih fun w hw => objects w (.tail _ hw)
    exact ⟨m :: ms, by rw [List.mapM_cons, first, others]; rfl⟩

/-- Of details that are otherwise as expected the ports alone decide whether they can be read. -/
theorem ofDetails_eq {v network : Json} {ports : List (String × Json)} (typed : WellTyped v)
    (connected : v.get? "NetworkSettings" = some network)
    (listed : network.get? "Ports" = some (.object ports)) :
    ∃ c : Container, ofDetails v =
      (publishedPorts network).map fun published => { c with ports := published } := by
  have object := exists_object connected
  obtain ⟨config, gotConfig, isConfig, image, env⟩ :=
    exists_getFilled object typed.config ⟨⟨[], rfl⟩, has_nil _ _, has_nil _ _⟩
  obtain ⟨state, gotState, isState, status⟩ :=
    exists_getFilled object typed.state ⟨⟨[], rfl⟩, has_nil _ _⟩
  obtain ⟨_, gotStatus, status, rfl⟩ := exists_getFilled isState status ⟨"unknown", rfl⟩
  have gotNetwork := getFilled_eq (.object []) connected (isTruthy_of_get? listed)
  obtain ⟨_, gotMounts, mounted⟩ := exists_getFilled object typed.mounts ⟨[], rfl, nofun⟩
  obtain ⟨vs, mounts, gotItems, gotEach⟩ := exists_mounts mounted
  obtain ⟨_, gotId, id, rfl⟩ := exists_getOr object typed.id ⟨"", rfl⟩
  obtain ⟨_, gotName, name, rfl⟩ := exists_getFilled object typed.name ⟨"", rfl⟩
  obtain ⟨_, gotImage, image, rfl⟩ := exists_getOr isConfig image ⟨"", rfl⟩
  obtain ⟨runs, gotRuns⟩ := exists_stateOf ⟨status, rfl⟩
  obtain ⟨_, gotCreated, moment⟩ := exists_getOr object typed.created (.inl rfl)
  obtain ⟨created, gotMoment⟩ := exists_createdAt moment
  obtain ⟨_, gotEnv, es, rfl, texts⟩ := exists_getFilled isConfig env ⟨[], rfl, nofun⟩
  obtain ⟨settings, same⟩ := exists_texts texts
  refine ⟨⟨id, withoutSlashes name, image, runs, status, created, [], settings, mounts⟩, ?_⟩
  simp only [ofDetails, gotConfig, gotState, gotStatus, gotNetwork, gotMounts, gotItems, gotEach,
    gotId, gotName, gotImage, gotRuns, gotCreated, gotMoment, gotEnv, same, Payload.text, bind,
    Except.bind]
  cases publishedPorts network with
  | error fault => rfl
  | ok published =>
    exact mapError_eq_ok_iff.mpr (read_toJson
      ⟨id, withoutSlashes name, image, runs, status, created, published, settings, mounts⟩)

/-- Each binding makes one port, in the order of the payload. The details cannot be read exactly if
a binding names a port that is no literal or stands under such a key, whatever stands under the keys
that have no bindings. -/
theorem details_publish {v network : Json} {ports : List (String × Json)}
    {entries : List (String × Option String)} (typed : WellTyped v)
    (connected : v.get? "NetworkSettings" = some network)
    (listed : network.get? "Ports" = some (.object ports)) (binds : Binds ports entries) :
    ((∃ fault, ofDetails v = .error fault) ↔ ∃ entry ∈ entries, Unreadable entry) ∧
      (∀ fault, ofDetails v = .error fault → fault = .unreadableInteger ∧
        (Unforeseen.payload fault).kind = "ValueError") ∧
      ∀ c, ofDetails v = .ok c → List.Forall₂ Publishes entries c.ports := by
  obtain ⟨c, read⟩ := ofDetails_eq typed connected listed
  have only : ∀ entry fault, portOf entry = .error fault → fault = .unreadableInteger :=
    fun _ _ failed => (portOf_eq_error_iff.mp failed).1
  rw [read, publishedPorts_eq listed binds]
  simp only [map_eq_error_iff, mapM_eq_error_iff only, portOf_eq_error_iff, true_and]
  refine ⟨?_, ?_, ?_⟩
  · exact ⟨fun ⟨_, _, unreadable⟩ => unreadable, fun unreadable => ⟨_, rfl, unreadable⟩⟩
  · rintro fault ⟨rfl, -⟩
    exact ⟨rfl, rfl⟩
  · intro c made
    obtain ⟨published, mapped, rfl⟩ := map_eq_ok_iff.mp made
    exact (mapM_eq_ok_iff_forall₂.mp mapped).imp fun entry p => portOf_eq_ok_iff.mp

/-- One port has two bindings, one has none under a key that is no number. -/
def twicePublished : List (String × Json) :=
  [("web/tcp", .null),
    ("22/udp", .list [.object [("HostIp", .text "::"), ("HostPort", .text " +2_222 ")], .object []])]

def twicePublishedDetails : Json :=
  .object [("Id", .text "abc123"),
    ("NetworkSettings", .object [("Ports", .object twicePublished)])]

theorem details_publish_twicePublished : WellTyped twicePublishedDetails ∧
    Binds twicePublished [("22/udp", some " +2_222 "), ("22/udp", none)] ∧
    ∃ c, ofDetails twicePublishedDetails = .ok c ∧
      List.Forall₂ Publishes [("22/udp", some " +2_222 "), ("22/udp", none)] c.ports ∧
      c.ports = [⟨22, some 2222, "udp"⟩, ⟨22, none, "udp"⟩] := by
  have typed : WellTyped twicePublishedDetails := by
    refine ⟨?_, nofun, nofun, nofun, nofun, nofun⟩
    intro w found
    obtain rfl := Option.some.inj found
    exact ⟨"abc123", rfl⟩
  have binds : Binds twicePublished [("22/udp", some " +2_222 "), ("22/udp", none)] :=
    .null (.list (.cons (.given rfl (by decide)) (.cons (.absent rfl) .nil)) .nil)
  obtain ⟨-, -, publishes⟩ := details_publish typed rfl rfl binds
  have read : ofDetails twicePublishedDetails = .ok ⟨"abc123", "", "", .other, "unknown", 0,
    [⟨22, some 2222, "udp"⟩, ⟨22, none, "udp"⟩], [], []⟩ := by decide
  exact ⟨typed, binds, _, read, publishes _ read, rfl⟩

end Container

end DevEnv
