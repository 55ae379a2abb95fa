import DevEnv.Container.Display
import DevEnv.Daemon.Service
import DevEnv.Proofs.Container.Reading
import DevEnv.Proofs.Text.Integer

/-!
Ports of containers out of the engine's payloads. Details and list entries that lead to the login server
through one host port only make containers whose login command names that port.
-/

namespace DevEnv

set_option autoImplicit false

open Outcome

/-! ### The login server -/

/-- The ports lead to the login server, and do so through this host port only. -/
structure LeadsTo (port : Int) (ports : List PortMapping) : Prop where
  somewhere : ∃ p ∈ ports, p.privatePort = Catalog.sshContainerPort
  only : ∀ p ∈ ports, p.privatePort = Catalog.sshContainerPort → p.publicPort = some port

namespace Container

variable {c : Container} {port : Int}

theorem sshHostPort?_of_leads {p : PortMapping} (h : p.publicPort = some port)
    (login : p.privatePort = Catalog.sshContainerPort) (nonzero : port ≠ 0) :
    sshHostPort? p = some port := by
  simp [sshHostPort?, login, h, nonzero]

theorem privatePort_of_sshHostPort? {p : PortMapping} {host : Int}
    (h : sshHostPort? p = some host) : p.privatePort = Catalog.sshContainerPort := by
  unfold sshHostPort? at h
  split at h
  · assumption
  · cases h

theorem sshCommand?_of_leads (h : LeadsTo port c.ports) (nonzero : port ≠ 0) :
    c.sshCommand? = some (sshCommandAt port) := by
  have leads : c.ports.findSome? sshHostPort? = some port := by
    cases found : c.ports.findSome? sshHostPort? with
    | none =>
      obtain ⟨p, hp, login⟩ := h.somewhere
      have nowhere := List.findSome?_eq_none_iff.mp found p hp
      rw [sshHostPort?_of_leads (h.only p hp login) login nonzero] at nowhere
      cases nowhere
    | some host =>
      obtain ⟨p, hp, host⟩ := List.exists_of_findSome?_eq_some found
      have login := privatePort_of_sshHostPort? host
      rw [← host, sshHostPort?_of_leads (h.only p hp login) login nonzero]
  rw [sshCommand?, leads]
  rfl

theorem publishes_of_leads (h : LeadsTo port c.ports) : Daemon.publishes port c = true := by
  obtain ⟨p, hp, login⟩ := h.somewhere
  refine List.any_eq_true.mpr ⟨p, hp, ?_⟩
  rw [h.only p hp login]
  exact beq_self_eq_true _

end Container

/-! ### Payloads -/

namespace Payload

variable {v w : Json} {key : String} {default : Json}

theorem getOr_eq_ok (h : getOr v key default = .ok w) : w = (v.get? key).getD default := by
  obtain ⟨found, got, rfl⟩ := map_eq_ok_iff.mp h
  cases v with
  | object fs => exact congrArg (Option.getD · default) (Except.ok.inj got).symm
  | _ => cases got

theorem getFilled_eq_ok (h : getFilled v key default = .ok w) :
    w = ((v.get? key).filter Json.isTruthy).getD default := by
  obtain ⟨found, got, rfl⟩ := map_eq_ok_iff.mp h
  cases v with
  | object fs =>
    obtain rfl := Except.ok.inj got
    change _ = ((fs.lookup key).filter Json.isTruthy).getD default
    cases fs.lookup key with
    | none => rfl
    | some w => cases filled : w.isTruthy <;> simp [Option.filter_some, filled]
  | _ => cases got

theorem getFilled_of_get? {x : Json} (h : getFilled v key default = .ok w)
    (there : v.get? key = some x) (filled : x.isTruthy = true) : w = x := by
  rw [getFilled_eq_ok h, there, Option.filter_some, if_pos filled]
  rfl

theorem isTruthy_of_get? {x : Json} (h : v.get? key = some x) : v.isTruthy = true := by
  cases v with
  | object fs =>
    cases fs with
    | nil => cases h
    | cons f fs => rfl
  | _ => cases h

theorem valid_eq_ok {α : Type} {kind : String} {read : Json → Checked α}
    {fields : List (String × Json)} {a : α} (h : valid kind read fields = .ok a) :
    read (.object fields) = .ok a :=
  mapError_eq_ok_iff.mp h

end Payload

open Reader Payload

theorem PortMapping.eq_of_describedBy {v : Json} {p p' : PortMapping} (h : DescribedBy v p)
    (h' : DescribedBy v p') : p = p' := by
  rw [← read_eq_ok_iff] at h h'
  exact Except.ok.inj (h.symm.trans h')

namespace Container

variable {v : Json} {c : Container} {port : Int}

theorem eq_of_lists_toJson {ports ports' : List PortMapping}
    (h : Lists PortMapping.DescribedBy (.list (ports.map PortMapping.toJson)) ports') :
    ports' = ports := by
  obtain ⟨vs, same, described⟩ := h
  obtain rfl := Json.list.inj same
  rw [List.forall₂_map_left_iff] at described
  clear same
  induction described with
  | nil => rfl
  | cons first rest ih =>
    rw [PortMapping.eq_of_describedBy first (PortMapping.describedBy_toJson _), ih]

theorem ports_of_read {fs : Fields} {ports : List PortMapping} (h : read (.object fs) = .ok c)
    (listed : fs.lookup "ports" = some (.list (ports.map PortMapping.toJson))) :
    c.ports = ports := by
  obtain ⟨fs', same, settings⟩ := read_eq_ok_iff.mp h
  obtain rfl := Json.object.inj same
  have described := settings.ports
  rw [listed] at described
  cases described with
  | given lists => exact eq_of_lists_toJson lists

/-! ### Details -/

/-- In these details one key is that of the login server, and all its bindings have this host port.
The other keys may be any that have another number. -/
inductive DetailsLead (port : Int) (v : Json) : Prop
  | intro {network : Json} {bindings : List Json} {before after : List (String × Json)}
      (connected : v.get? "NetworkSettings" = some network)
      (listed : network.get? "Ports" =
        some (.object (before ++ ("22/tcp", .list bindings) :: after)))
      (bound : bindings ≠ [])
      (hosts : ∀ b ∈ bindings, b.get? "HostPort" = some (.text (toString port)))
      (single : ∀ other ∈ before ++ after,
        Text.integer? (splitPortKey other.1).1 ≠ some Catalog.sshContainerPort)

theorem binding_eq_ok {key : String} {p : PortMapping} (h : binding key v = .ok p) :
    Text.integer? (splitPortKey key).1 = some p.privatePort ∧
      ∃ host, getOr v "HostPort" .null = .ok host ∧ hostPort host = .ok p.publicPort := by
  obtain ⟨host, got, h⟩ := bind_eq_ok_iff.mp h
  split at h
  · cases h
  · rename_i number read
    obtain ⟨published, hosted, h⟩ := bind_eq_ok_iff.mp h
    obtain rfl := Except.ok.inj h
    exact ⟨read, host, got, hosted⟩

theorem hostPort_toString (spelled : Text.integer? (toString port) = some port) :
    hostPort (.text (toString port)) = .ok (some port) := by
  have filled : toString port ≠ "" := by
    intro empty
    rw [empty] at spelled
    cases spelled
  rw [hostPort, if_pos (Json.isTruthy_text filled)]
  simp only [spelled]

theorem publicPort_of_binding {key : String} {p : PortMapping} (h : binding key v = .ok p)
    (spelled : Text.integer? (toString port) = some port)
    (hosts : v.get? "HostPort" = some (.text (toString port))) : p.publicPort = some port := by
  obtain ⟨-, host, got, hosted⟩ := binding_eq_ok h
  have same : host = .text (toString port) := by
    rw [getOr_eq_ok got, hosts]
    rfl
  rw [same, hostPort_toString spelled] at hosted
  exact (Except.ok.inj hosted).symm

/-- A port comes out of a binding of its key. -/
theorem exists_of_portBindings {port : String × Json} {ps : List PortMapping}
    (h : portBindings port = .ok ps) {p : PortMapping} (hp : p ∈ ps) :
    ∃ bs b, items port.2 = .ok bs ∧ b ∈ bs ∧ binding port.1 b = .ok p := by
  unfold portBindings at h
  split at h
  · obtain ⟨bs, listed, h⟩ := bind_eq_ok_iff.mp h
    obtain ⟨b, hb, bound⟩ := (exists_of_mapM h).2 p hp
    exact ⟨bs, b, listed, hb, bound⟩
  · obtain rfl := Except.ok.inj h
    cases hp

theorem leads_of_publishedPorts {ports : List (String × Json)} {published : List (List PortMapping)}
    (h : ports.mapM portBindings = .ok published)
    (spelled : Text.integer? (toString port) = some port)
    {before after : List (String × Json)} {bindings : List Json}
    (whole : ports = before ++ ("22/tcp", .list bindings) :: after) (bound : bindings ≠ [])
    (hosts : ∀ b ∈ bindings, b.get? "HostPort" = some (.text (toString port)))
    (single : ∀ other ∈ before ++ after,
      Text.integer? (splitPortKey other.1).1 ≠ some Catalog.sshContainerPort) :
    LeadsTo port published.flatten := by
  have login : Text.integer? (splitPortKey "22/tcp").1 = some Catalog.sshContainerPort := by
    decide
  obtain ⟨forward, back⟩ := exists_of_mapM h
  -- The key of the login server gives a port, and whatever port is its comes from that key.
  constructor
  · obtain ⟨ps, hps, bindsAll⟩ := forward ("22/tcp", .list bindings) (by simp [whole])
    obtain ⟨b, bs, rfl⟩ := List.exists_cons_of_ne_nil bound
    have mapped : (b :: bs).mapM (binding "22/tcp") = .ok ps := bindsAll
    obtain ⟨p, hp, binds⟩ := (exists_of_mapM mapped).1 b List.mem_cons_self
    refine ⟨p, List.mem_flatten.mpr ⟨ps, hps, hp⟩, ?_⟩
    have number := (binding_eq_ok binds).1
    rw [login] at number
    exact (Option.some.inj number).symm
  · intro p hp isLogin
    obtain ⟨ps, hps, hp⟩ := List.mem_flatten.mp hp
    obtain ⟨key, hkey, binds⟩ := back ps hps
    obtain ⟨bs, b, listed, hb, bindsOne⟩ := exists_of_portBindings binds hp
    have number := (binding_eq_ok bindsOne).1
    rw [isLogin] at number
    have here : key = ("22/tcp", .list bindings) := by
      rw [whole, List.mem_append, List.mem_cons, or_left_comm, ← List.mem_append] at hkey
      exact hkey.resolve_right fun other => single key other number
    subst here
    obtain rfl := Except.ok.inj listed
    exact publicPort_of_binding bindsOne spelled (hosts b hb)

/-- The ports of the details are the ports of the container. -/
theorem publishedPorts_of_details (h : ofDetails v = .ok c) :
    ∃ network, getFilled v "NetworkSettings" (.object []) = .ok network ∧
      publishedPorts network = .ok c.ports := by
  simp only [ofDetails, bind_eq_ok_iff] at h
  obtain ⟨_, -, _, -, _, -, network, networked, ports, published, h⟩ := h
  obtain ⟨_, -, _, -, _, -, _, -, _, -, _, -, _, -, _, -, _, -, _, -, _, -, made⟩ := h
  rw [ports_of_read (valid_eq_ok made) rfl]
  exact ⟨network, networked, published⟩

theorem leads_of_details (spelled : Text.integer? (toString port) = some port)
    (h : ofDetails v = .ok c) (leads : DetailsLead port v) : LeadsTo port c.ports := by
  obtain ⟨connected, listed, bound, hosts, single⟩ := leads
  obtain ⟨network, networked, published⟩ := publishedPorts_of_details h
  obtain rfl := getFilled_of_get? networked connected (isTruthy_of_get? listed)
  obtain ⟨ports, got, published⟩ := bind_eq_ok_iff.mp published
  obtain rfl := getFilled_of_get? got listed (by simp [Json.isTruthy])
  obtain ⟨pss, mapped, published⟩ := bind_eq_ok_iff.mp published
  rw [← Except.ok.inj published]
  exact leads_of_publishedPorts mapped spelled rfl bound hosts single

/-! ### List entries -/

/-- In this list entry one port is that of the login server, and this host port leads to it. The
other ports may be any that have another number. -/
inductive SummaryLeads (port : Int) (v : Json) : Prop
  | intro {entry number host : Json} {before after : List Json}
      (listed : v.get? "Ports" = some (.list (before ++ entry :: after)))
      (inner : entry.get? "PrivatePort" = some number)
      (login : Counts number Catalog.sshContainerPort)
      (outer : entry.get? "PublicPort" = some host) (published : Counts host port)
      (single : ∀ other ∈ before ++ after, ∀ w, other.get? "PrivatePort" = some w →
        ¬ Counts w Catalog.sshContainerPort)

theorem summaryPort_eq_ok {p : PortMapping} (h : summaryPort v = .ok p) :
    Counts ((v.get? "PrivatePort").getD (.integer 0)) p.privatePort ∧
      Nullably Counts ((v.get? "PublicPort").getD .null) p.publicPort := by
  obtain ⟨number, inner, h⟩ := bind_eq_ok_iff.mp h
  obtain ⟨host, outer, h⟩ := bind_eq_ok_iff.mp h
  obtain ⟨protocol, -, made⟩ := bind_eq_ok_iff.mp h
  obtain ⟨fs, same, settings⟩ := PortMapping.read_eq_ok_iff.mp (valid_eq_ok made)
  obtain rfl := Json.object.inj same
  rw [← getOr_eq_ok inner, ← getOr_eq_ok outer]
  obtain ⟨number', found, counts⟩ := settings.privatePort
  obtain rfl := Option.some.inj found
  have published := settings.publicPort
  have found : List.lookup "public_port" [("private_port", number), ("public_port", host),
    ("protocol", protocol)] = some host := rfl
  rw [found] at published
  cases published with
  | given nullably => exact ⟨counts, nullably⟩

theorem counts_unique {w : Json} {n m : Int} (h : Counts w n) (h' : Counts w m) : n = m :=
  Except.ok.inj (h.symm.trans h')

theorem ports_of_summary (h : ofSummary v = .ok c) :
    ∃ entries vs, getFilled v "Ports" (.list []) = .ok entries ∧ items entries = .ok vs ∧
      vs.mapM summaryPort = .ok c.ports := by
  simp only [ofSummary, bind_eq_ok_iff] at h
  obtain ⟨_, -, _, -, entries, got, vs, listed, ports, mapped, h⟩ := h
  obtain ⟨_, -, _, -, _, -, _, -, _, -, _, -, made⟩ := h
  rw [ports_of_read (valid_eq_ok made) rfl]
  exact ⟨entries, vs, got, listed, mapped⟩

theorem privatePort_ne_login {p : PortMapping} (h : summaryPort v = .ok p)
    (other : ∀ w, v.get? "PrivatePort" = some w → ¬ Counts w Catalog.sshContainerPort) :
    p.privatePort ≠ Catalog.sshContainerPort := by
  intro login
  have counts := (summaryPort_eq_ok h).1
  rw [login] at counts
  cases found : v.get? "PrivatePort" with
  | none =>
    rw [found] at counts
    cases counts
  | some w =>
    rw [found] at counts
    exact other w found counts

theorem leads_of_summary (h : ofSummary v = .ok c) (leads : SummaryLeads port v) :
    LeadsTo port c.ports := by
  obtain @⟨entry, _, host, _, _, listed, inner, login, outer, published, single⟩ := leads
  obtain ⟨entries, vs, got, items, mapped⟩ := ports_of_summary h
  obtain rfl := getFilled_of_get? got listed (by simp [Json.isTruthy])
  obtain rfl := Except.ok.inj items
  obtain ⟨forward, back⟩ := exists_of_mapM mapped
  constructor
  · obtain ⟨p, hp, read⟩ := forward entry (List.mem_append_right _ List.mem_cons_self)
    obtain ⟨counts, -⟩ := summaryPort_eq_ok read
    rw [inner] at counts
    exact ⟨p, hp, counts_unique counts login⟩
  · intro p hp isLogin
    obtain ⟨other, hother, read⟩ := back p hp
    rw [List.mem_append, List.mem_cons, or_left_comm, ← List.mem_append] at hother
    rcases hother with rfl | hother
    · have nullably := (summaryPort_eq_ok read).2
      rw [outer] at nullably
      generalize p.publicPort = found at nullably
      cases nullably with
      | null => cases published
      | given _ counts => exact congrArg some (counts_unique counts published)
    · exact absurd isLogin (privatePort_ne_login read (single other hother))

end Container

end DevEnv
