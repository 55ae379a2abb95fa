import DevEnv.Proofs.Daemon.Errand
import DevEnv.Rehearsal.Daemon

/-!
How the errands of an engine end that connects when it is first needed. Two kinds of failures leave the
engine layer as they are: faults on connecting that are not errors of the client library itself, and
details that describe no container.
-/

namespace DevEnv.Daemon

set_option autoImplicit false

variable {σ α : Type} {client : Client σ} {errand : Errand} {s : σ}

/-- A service of an engine that connects when it is first needed. -/
def Client.reach (client : Client σ) (connected : Bool) (service : Service σ α) : Service σ α :=
  if connected then service else client.open.andThen fun _ => service

/-- Connecting raises a fault, or the first question after it does. -/
inductive RaisesOpening (client : Client σ) (s : σ) (fault : Fault) : Prop
  | connect (raised : (client.connect s).1 = .error fault)
  | ping {t : σ} (connected : client.connect s = (.ok (), t))
    (raised : (client.ping t).1 = .error fault)

/-- The failure that a fault on connecting comes out as if nothing explains it. -/
def Fault.unexplained? : Fault → Option Unforeseen
  | .connection m => some (.connection m)
  | .runtime m => some (.runtime m)
  | _ => none

structure BreaksOut (fault : Fault) (e : Escape) : Prop where
  unforeseen_iff : ∀ u, e = .failed (.unforeseen u) ↔ fault.unexplained? = some u
  interrupted_iff : e = .interrupted ↔ fault = .interrupt

theorem explainConnect_escapes (fault : Fault) :
    ∃ e, (explainConnect fault : Except Escape α) = .error e ∧ BreaksOut fault e := by
  cases fault <;> exact ⟨_, rfl, by simp [Fault.unexplained?, eq_comm], by simp⟩

theorem open_eq_explainConnect {fault : Fault} (h : RaisesOpening client s fault) :
    (client.open s).1 = explainConnect fault := by
  obtain ⟨e, he, -⟩ := @explainConnect_escapes Unit fault
  cases h with
  | connect raised =>
    have first : (client.connect.service explainConnect Except.ok s).1 = .error e := by
      rw [service_of_raised raised, he]
    rw [he]
    exact andThen_of_escaped first
  | ping connected raised =>
    have first : client.connect.service explainConnect Except.ok s = (.ok (), _) :=
      service_of_answered connected
    rw [Client.open, andThen_of_done first, service_of_raised raised]

theorem open_of_raises {fault : Fault} (h : RaisesOpening client s fault) :
    ∃ e, (client.open s).1 = .error e ∧ BreaksOut fault e := by
  obtain ⟨e, he, out⟩ := @explainConnect_escapes Unit fault
  exact ⟨e, (open_eq_explainConnect h).trans he, out⟩

/-- The state in which the errand itself begins, if connecting has not failed before. -/
inductive Begins (client : Client σ) (s : σ) : Bool → σ → Prop
  | already : Begins client s true s
  | opened {t u : σ} (connected : client.connect s = (.ok (), t))
    (answers : client.ping t = (.ok (), u)) : Begins client s false u

theorem begins_or_raises (client : Client σ) (s : σ) (connected : Bool) :
    (connected = false ∧ ∃ fault, RaisesOpening client s fault) ∨
      ∃ t, Begins client s connected t := by
  cases connected with
  | true => exact .inr ⟨s, .already⟩
  | false =>
    rcases first : client.connect s with ⟨fault | x, t⟩
    · exact .inl ⟨rfl, fault, .connect (by rw [first])⟩
    · rcases second : client.ping t with ⟨fault | y, u⟩
      · exact .inl ⟨rfl, fault, .ping first (by rw [second])⟩
      · exact .inr ⟨u, .opened first second⟩

theorem reach_of_begins {connected : Bool} {t : σ} (h : Begins client s connected t)
    (service : Service σ α) : client.reach connected service s = service t := by
  cases h with
  | already => rfl
  | opened first second =>
    have opened : client.open s = (.ok (), t) := by
      rw [Client.open, andThen_of_done (service_of_answered first), service_of_answered second]
    exact andThen_of_done opened

/-- What goes wrong is a fault on connecting, or it goes wrong in the service. -/
theorem explained_or_served {connected : Bool} {service : Service σ α} {e : Escape}
    (h : (client.reach connected service s).1 = .error e) :
    (∃ fault, (explainConnect fault : Except Escape Unit) = .error e) ∨
      ∃ t, Begins client s connected t ∧ (service t).1 = .error e := by
  rcases begins_or_raises client s connected with ⟨rfl, fault, raises⟩ | ⟨t, begins⟩
  · left
    obtain ⟨e', escaped, -⟩ := open_of_raises raises
    have missed : (client.reach false service s).1 = .error e' := andThen_of_escaped escaped
    obtain rfl := Except.error.inj (missed.symm.trans h)
    exact ⟨fault, (open_eq_explainConnect raises).symm.trans escaped⟩
  · rw [reach_of_begins begins] at h
    exact .inr ⟨t, begins, h⟩

end DevEnv.Daemon
