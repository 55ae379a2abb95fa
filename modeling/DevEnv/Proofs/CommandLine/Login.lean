import DevEnv.Proofs.CommandLine.Deployment
import DevEnv.Proofs.Container.Ports

/-!
The host port of the login server, from the environment that chooses it to the commands that name it.
A container is started with it, its payloads lead back to it, and whoever is told how to log in is told
this port.
-/

namespace DevEnv

set_option autoImplicit false

open Outcome

variable {σ : Type} {e : Environment} {a : SshAccess}

/-! ### The port of an environment -/

theorem SshAccess.usable_of_active (active : e.activeSsh? = some a) :
    SshUsable a.port a.password := by
  rw [Environment.activeSsh?] at active
  exact a.usable (Option.filter_eq_some_iff.mp active).2

theorem SshUsable.integer?_port {port : Int} {password : String} (h : SshUsable port password) :
    Text.integer? (toString port) = some port := by
  obtain ⟨low, high, -⟩ := h
  simp only [Catalog.minSshPort, Catalog.maxSshPort] at low high
  exact Text.integer?_of_small (by omega) (by omega)

theorem SshUsable.port_ne_zero {port : Int} {password : String} (h : SshUsable port password) :
    port ≠ 0 := by
  have low := h.1
  simp only [Catalog.minSshPort] at low
  omega

theorem portMap_toDraft (active : e.activeSsh? = some a) :
    e.toDraft.portMap = [(.integer a.port, 22)] := by
  obtain ⟨given, on⟩ := Option.filter_eq_some_iff.mp active
  simp [Draft.portMap, Environment.toDraft, given, SshAccess.toDraft, on]

namespace Daemon

theorem ports_ofRequest (port : Int) {request : RunRequest}
    (mapped : request.portMap = [(.integer port, 22)]) :
    (RunOrder.ofRequest request).ports = some [("22/tcp", .integer port)] := by
  rw [RunOrder.ofRequest, mapped]
  rfl

/-! ### Ports in use -/

variable {client : Client σ} {s t : σ} {payloads : List Json} {cs : List Container}

theorem containersOf_eq_ok (h : containersOf payloads = .ok cs) :
    payloads.mapM Container.ofSummary = .ok cs := by
  unfold containersOf at h
  split at h
  · rename_i read
    rw [read, Except.ok.inj h]
  · cases h

theorem isPortInUse_of_leads (parsed : containersOf payloads = .ok cs)
    (answer : client.list true s = (.ok payloads, t)) {c : Container} (hc : c ∈ cs)
    (running : c.isRunning = true) {port : Int} (leads : LeadsTo port c.ports) :
    client.isPortInUse port s = (.ok true, t) := by
  have listed : client.listContainers true s = (.ok cs, t) := by
    simp only [Client.listContainers, Operation.service, answer, parsed]
  have used : (cs.any fun c => c.isRunning && publishes port c) = true := by
    refine List.any_eq_true.mpr ⟨c, hc, ?_⟩
    rw [running, Container.publishes_of_leads leads]
    rfl
  rw [Client.isPortInUse, andThen_of_done listed, used]

end Daemon

namespace CommandLine

open Daemon

/-- A successful run ends with the command for a login. -/
theorem connected_of_run {client : Client σ} {setting : Setting} {daemon : σ} {w : Workspace}
    {args : List String} {kept : Option Progress} {name given : Option String} {env : List String}
    (found : (foundAt w args).progress? = .ok kept)
    (active : (StateFile.environmentOf kept).activeSsh? = some a)
    (asked : Invocation.read ⟨namesDirectory w, setting.valueOf?⟩ args =
      .ok (.run name env given))
    (succeeds : (runProgram client setting daemon w args).exit = 0) :
    ∃ before, (runProgram client setting daemon w args).out =
      before ++ ("Connect with: " ++ Container.sshCommandAt a.port ++ "\n") := by
  have ended := ended_run client setting daemon found asked
  obtain ⟨result, way⟩ := ended.exit_iff.mp succeeds
  obtain ⟨-, out⟩ := ended.done result way
  rw [out, runOutput, connectLine, active]
  exact ⟨_, rfl⟩

end CommandLine

/-! ### Agreement -/

open Daemon CommandLine

/-- This host port is the one that leads to the login server, whoever is asked: the engine that starts
a container, the details of a container, a list of containers, and the command line. -/
structure LoginAt (e : Environment) (port : Int) : Prop where
  requested : ∀ (p : Pipeline) (options : RunOptions) (suffix : String),
    p.draft = some e.toDraft → ∃ request, p.runRequest options suffix = .ok request ∧
      request.portMap = [(.integer port, 22)] ∧
      ∀ (σ : Type) (client : Client σ) (s : σ), ∃ order,
        (client.logging.runContainer request (s, [])).2.2 = [.run order] ∧
        order.ports = some [("22/tcp", .integer port)]
  inspected : ∀ payload c, Container.ofDetails payload = .ok c →
    Container.DetailsLead port payload →
      c.sshCommand? = some ("ssh -p " ++ toString port ++ " root@localhost")
  listed : ∀ payloads cs, containersOf payloads = .ok cs → ∀ payload ∈ payloads,
    Container.SummaryLeads port payload → ∃ c ∈ cs, Container.ofSummary payload = .ok c ∧
      c.sshCommand? = some ("ssh -p " ++ toString port ++ " root@localhost") ∧
      (c.isRunning = true → ∀ (σ : Type) (client : Client σ) (s t : σ),
        client.list true s = (.ok payloads, t) → client.isPortInUse port s = (.ok true, t))
  printed : ∀ (σ : Type) (client : Client σ) (setting : Setting) (daemon : σ) (w : Workspace)
    (args : List String) (kept : Option Progress) (name given : Option String) (env : List String),
    (foundAt w args).progress? = .ok kept → StateFile.environmentOf kept = e →
      Invocation.read ⟨namesDirectory w, setting.valueOf?⟩ args = .ok (.run name env given) →
      (runProgram client setting daemon w args).exit = 0 → ∃ before,
        (runProgram client setting daemon w args).out =
          before ++ ("Connect with: " ++ ("ssh -p " ++ toString port ++ " root@localhost") ++ "\n")

theorem login_agrees (active : e.activeSsh? = some a) : LoginAt e a.port where
  requested p options suffix draft := by
    refine ⟨_, Pipeline.runRequest_toDraft draft options suffix, portMap_toDraft active, ?_⟩
    intro σ client s
    exact ⟨_, calls_runContainer client _ s, ports_ofRequest a.port (portMap_toDraft active)⟩
  inspected payload c read leads := by
    have usable := SshAccess.usable_of_active active
    exact Container.sshCommand?_of_leads
      (Container.leads_of_details usable.integer?_port read leads) usable.port_ne_zero
  listed payloads cs parsed payload hpayload leads := by
    have usable := SshAccess.usable_of_active active
    obtain ⟨c, hc, read⟩ := (exists_of_mapM (containersOf_eq_ok parsed)).1 payload hpayload
    have ports := Container.leads_of_summary read leads
    refine ⟨c, hc, read, Container.sshCommand?_of_leads ports usable.port_ne_zero, ?_⟩
    intro running σ client s t answer
    exact isPortInUse_of_leads parsed answer hc running ports
  printed σ client setting daemon w args kept name given env found same asked succeeds := by
    subst same
    exact connected_of_run found active asked succeeds

/-! ### A container with more than one port -/

def boundTo (host : String) : Json :=
  .object [("HostIp", .text "0.0.0.0"), ("HostPort", .text host)]

def portEntry (number host : Int) : Json :=
  .object [("PrivatePort", .integer number), ("PublicPort", .integer host), ("Type", .text "tcp")]

def openDetails : Json :=
  .object [("Id", .text "c0ffee"), ("NetworkSettings", .object [("Ports", .object
    [("80/tcp", .list [boundTo "8080"]), ("22/tcp", .list [boundTo "2222"]), ("443/tcp", .null)])])]

def openSummary : Json :=
  .object [("Id", .text "c0ffee"), ("State", .text "running"),
    ("Ports", .list [portEntry 80 8080, portEntry 22 2222])]

theorem detailsLead_openDetails : Container.DetailsLead 2222 openDetails :=
  @Container.DetailsLead.intro 2222 openDetails _ [boundTo "2222"]
    [("80/tcp", .list [boundTo "8080"])] [("443/tcp", .null)] rfl rfl (List.cons_ne_nil _ _)
    (by decide) (by decide)

theorem summaryLeads_openSummary : Container.SummaryLeads 2222 openSummary := by
  refine @Container.SummaryLeads.intro 2222 openSummary (portEntry 22 2222) (.integer 22)
    (.integer 2222) [portEntry 80 8080] [] rfl rfl rfl rfl rfl ?_
  intro other hother w inner login
  obtain rfl := List.mem_singleton.mp hother
  obtain rfl := Option.some.inj inner
  cases login

/-- A daemon that lists such a container. -/
def listing : Scripted := ⟨[(.list, [{ Reply.plain with items := [openSummary] }])], []⟩

theorem login_agrees_pythonLogin :
    let command := "ssh -p 2222 root@localhost"
    (∃ c, Container.ofDetails openDetails = .ok c ∧ c.sshCommand? = some command) ∧
    (∃ c, Container.ofSummary openSummary = .ok c ∧ c.sshCommand? = some command ∧
      c.isRunning = true) ∧
    (Scripted.client.isPortInUse 2222 listing).1 = .ok true ∧
    ∃ before, (runProgram Scripted.client .plain ⟨[], []⟩ pythonSaved ["run"]).out =
      before ++ ("Connect with: " ++ command ++ "\n") := by
  intro command
  have active : pythonLogin.activeSsh? =
      some ⟨true, 2222, "secret", none, fun _ => by decide⟩ := rfl
  have agrees : LoginAt pythonLogin 2222 := login_agrees active
  obtain ⟨c, read⟩ : ∃ c, Container.ofDetails openDetails = .ok c := exists_of_isOk (by decide)
  obtain ⟨cs, parsed⟩ : ∃ cs, containersOf [openSummary] = .ok cs :=
    exists_of_isOk (by decide)
  obtain ⟨c', -, read', told, used⟩ := agrees.listed _ cs parsed openSummary
    (List.mem_singleton_self _) summaryLeads_openSummary
  have running : c'.isRunning = true := by
    have state : (Container.ofSummary openSummary).map Container.isRunning = .ok true := by
      decide
    rw [read'] at state
    exact Except.ok.inj state
  have answer := used running Scripted Scripted.client listing _ rfl
  refine ⟨⟨c, read, agrees.inspected _ c read detailsLead_openDetails⟩, ⟨c', read', told, running⟩,
    congrArg Prod.fst answer, ?_⟩
  have asked : Invocation.read ⟨namesDirectory pythonSaved, Setting.plain.valueOf?⟩ ["run"] =
      .ok (.run none [] none) := by
    decide +kernel
  have found := found_pythonSaved ["run"]
  let tag := tagOf pythonLogin none
  have ended : Ended (runProgram Scripted.client .plain ⟨[], []⟩ pythonSaved ["run"])
      ((Course.container Scripted.client (foundAt pythonSaved ["run"]).standIns pythonLogin tag
        (requestOf pythonLogin "" tag ⟨none, []⟩)).run.run ⟨[], []⟩) (runOutput pythonLogin tag) :=
    ended_run Scripted.client .plain ⟨[], []⟩ found asked
  obtain ⟨succeeds, -⟩ := ended.of_pythonSaved
  exact agrees.printed _ Scripted.client .plain ⟨[], []⟩ pythonSaved ["run"] _ none none [] found rfl
    asked succeeds

end DevEnv
