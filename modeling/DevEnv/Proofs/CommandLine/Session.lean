import DevEnv.CommandLine.Session
import DevEnv.Proofs.Daemon.Escape

/-!
Commands at work on the daemon. A command that asks for a service connects first if nobody has, and
goes on with what `Client.reach` comes to.
-/

namespace DevEnv.CommandLine

set_option autoImplicit false

open Daemon

variable {σ α β : Type}

/-- What a command makes of the outcome of a service. -/
def settled : Except Escape α → Except Ending (Except Failure α)
  | .ok a => .ok (.ok a)
  | .error (.failed f) => .ok (.error f)
  | .error .interrupted => .error .interrupted

theorem run_settle (r : Except Escape α) (t : Session σ) :
    (settle r).run.run t = (settled r, t) := by
  rcases r with (f | _) | a <;> rfl

theorem run_onDaemon (service : Service σ α) (t : Session σ) :
    (onDaemon service).run.run t =
      (.ok (service t.daemon).1, { t with daemon := (service t.daemon).2 }) := rfl

theorem run_modify (f : Session σ → Session σ) (t : Session σ) :
    (modify f : CommandM σ PUnit).run.run t = (.ok ⟨⟩, f t) := rfl

section Bind
variable {ε ρ : Type} {x : ExceptT ε (StateM ρ) α} {next : α → ExceptT ε (StateM ρ) β} {t u : ρ}

theorem run_bind_of_ok {a : α} (h : x.run.run t = (.ok a, u)) :
    (x >>= next).run.run t = (next a).run.run u := by
  rw [ExceptT.run_bind, StateT.run_bind, h]
  rfl

theorem run_bind_of_error {e : ε} (h : x.run.run t = (.error e, u)) :
    (x >>= next).run.run t = (.error e, u) := by
  rw [ExceptT.run_bind, StateT.run_bind, h]
  rfl

end Bind

theorem run_onDaemon_settle (service : Service σ α) (t : Session σ) :
    (onDaemon service >>= settle).run.run t =
      (settled (service t.daemon).1, { t with daemon := (service t.daemon).2 }) := by
  rw [run_bind_of_ok (run_onDaemon service t), run_settle]

/-- Whether a session is connected once it has made a request. -/
def Session.opens (client : Client σ) (t : Session σ) : Bool :=
  t.connected || (client.open t.daemon).1.isOk

/-- Commands reach the daemon in this way. -/
theorem run_request (client : Client σ) (service : Service σ α) (t : Session σ) :
    (request client service).run.run t =
      (settled (client.reach t.connected service t.daemon).1,
        { t with
          daemon := (client.reach t.connected service t.daemon).2
          connected := t.opens client }) := by
  have begun : (get : CommandM σ (Session σ)).run.run t = (.ok t, t) := rfl
  rw [request, run_bind_of_ok begun, Session.opens]
  cases connected : t.connected with
  | true =>
    have reaches : client.reach true service = service := rfl
    simp only [if_true, Bool.true_or]
    rw [run_onDaemon_settle, reaches, ← connected]
  | false =>
    have reaches : client.reach false service = client.open.andThen fun _ => service := rfl
    have opening := run_onDaemon client.open t
    simp only [Bool.false_eq_true, if_false, Bool.false_or]
    rw [reaches]
    rcases opened : client.open t.daemon with ⟨e | u, d⟩ <;> rw [opened] at opening <;>
      rw [run_bind_of_ok opening]
    · have escaped : client.open.andThen (fun _ => service) t.daemon = (.error e, d) := by
        rw [Service.andThen, opened]
      rw [escaped]
      cases e with
      | failed f =>
        rw [run_bind_of_ok (run_settle (.error (.failed f)) _), connected]
        rfl
      | interrupted =>
        rw [run_bind_of_error (run_settle (.error .interrupted) _), connected]
        rfl
    · rw [run_bind_of_ok (run_settle (.ok u) _), andThen_of_done opened]
      dsimp only
      rw [run_bind_of_ok (run_modify _ _), run_onDaemon_settle]
      rfl

/-- Who has got an answer is connected. -/
theorem Session.opens_of_reach {client : Client σ} {service : Service σ α} {t : Session σ} {a : α}
    (h : (client.reach t.connected service t.daemon).1 = .ok a) : t.opens client = true := by
  unfold Session.opens
  cases connected : t.connected with
  | true => rfl
  | false =>
    rw [connected] at h
    rcases opened : client.open t.daemon with ⟨e | u, d⟩
    · have escaped : (client.open t.daemon).1 = .error e := by rw [opened]
      have missed : (client.reach false service t.daemon).1 = .error e := andThen_of_escaped escaped
      rw [missed] at h
      cases h
    · rfl

end DevEnv.CommandLine
