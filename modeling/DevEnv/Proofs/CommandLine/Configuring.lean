import DevEnv.CommandLine.Program
import DevEnv.Proofs.CommandLine.Reading
import DevEnv.Proofs.CommandLine.Session
import DevEnv.Proofs.Workspace.Keeping

/-!
Commands at work on the configuration. Where progress is kept they find it, and an environment that
they keep is found by the next command.
-/

namespace DevEnv.CommandLine

set_option autoImplicit false

open Workspace StateFile

variable {σ : Type} {t : Session σ} {kept : Option Progress}

/-- Loading, whatever the state file is. -/
theorem run_load (t : Session σ) {found : Loaded} (h : t.files.stateFile.load t.spoken = found) :
    (load : CommandM σ (Option Progress)).run.run t =
      (found.progress?.mapError fun fault => .crash (.unforeseen (.stateFile fault)),
        { t with
          standIns := found.standIns
          log := t.log ++ List.replicate found.warnings unreadableState }) := by
  subst h
  have hget : (get : CommandM σ (Session σ)).run.run t = (.ok t, t) := rfl
  have hrecord : ∀ entries, (record entries : CommandM σ Unit).run.run t =
      (.ok (), { t with log := t.log ++ entries }) := fun _ => rfl
  rw [load, run_bind_of_ok hget, run_bind_of_ok hget, run_bind_of_ok (hrecord _),
    run_bind_of_ok (run_modify _ _)]
  cases (t.files.stateFile.load t.spoken).progress? <;> rfl

/-- The session after loading where progress is kept. -/
def Session.loaded (t : Session σ) : Session σ := { t with standIns := .none }

section Update
variable {change : Environment → Checked Environment}

end Update

/-- What a change of remote access makes of an environment: access in which everything that is not
given is as before, or as usual if there was no access. -/
def SshChange.Yields (change : SshChange) (e e' : Environment) : Prop :=
  e'.name = e.name ∧ e'.system = e.system ∧ e'.languages = e.languages ∧
    if change.disable then e'.ssh = none
    else ∃ a, e'.ssh = some a ∧ a.enabled = true ∧
      a.port = change.port.getD (e.ssh.getD .disabled).port ∧
      a.password = change.password.getD (e.ssh.getD .disabled).password ∧
      a.publicKey = change.publicKey.or (e.ssh.getD .disabled).publicKey

theorem SshChange.apply_eq_ok_iff {change : SshChange} {e e' : Environment} :
    change.apply e = .ok e' ↔ change.Yields e e' := by
  unfold SshChange.apply SshChange.Yields
  split
  · exact Environment.apply_eq_ok_iff
  · rw [Outcome.bind_eq_ok_iff]
    simp only [Checked.ofRule_eq_ok_iff, SshChange.settings, SshAccess.check_eq_ok_iff,
      Environment.apply_eq_ok_iff, Edit.Yields]
    constructor
    · rintro ⟨a, ⟨henabled, hport, hpassword, hkey⟩, hname, hsystem, hlanguages, hssh⟩
      exact ⟨hname, hsystem, hlanguages, a, hssh, henabled.symm, hport.symm, hpassword.symm,
        hkey.symm⟩
    · rintro ⟨hname, hsystem, hlanguages, a, hssh, henabled, hport, hpassword, hkey⟩
      exact ⟨a, ⟨henabled.symm, hport.symm, hpassword.symm, hkey.symm⟩, hname, hsystem, hlanguages,
        hssh⟩

theorem SshChange.explained_apply (change : SshChange) (e : Environment) :
    Checked.Explained (change.apply e) := by
  unfold SshChange.apply
  split
  · exact e.explained_apply _
  · exact (Checked.explained_ofRule _).bind fun a => e.explained_apply _

/-! ### What an invocation is to do -/

/-- The kept progress after a change of the environment. -/
def revisedBy (kept : Option Progress) (change : Environment → Checked Environment) :
    Checked (Option Progress) :=
  (change (environmentOf kept)).map fun e => some (withEnvironment kept e)

theorem allows_port {n : Int} (hlow : 1024 ≤ n) (hhigh : n ≤ 65535) :
    Json.DigitLimit.usual.allows (Json.digitCount n) = true := by
  have hfew : (Nat.toDigits 10 n.natAbs).length ≤ 5 :=
    (Nat.length_toDigits_le_iff (by decide) (by decide)).mpr (by omega)
  exact decide_eq_true (hfew.trans (by decide))

/-- Changes that leave remote access as it was, or leave it with a valid port if any. -/
def KeepsFit (change : Environment → Checked Environment) : Prop :=
  ∀ e e', change e = .ok e' →
    e'.ssh = e.ssh ∨ ∀ a, e'.ssh = some a → a.enabled = true

theorem KeepsFit.fits {change : Environment → Checked Environment} (hchange : KeepsFit change)
    (h : Keeps .usual t.files kept) {e : Environment} (he : change (environmentOf kept) = .ok e) :
    (withEnvironment kept e).Fits .usual := by
  have hport : ∀ a, e.ssh = some a →
      Json.DigitLimit.usual.allows (Json.digitCount a.port) = true := by
    intro a ha
    -- A port that is left alone fitted before; one of enabled access has five digits at most.
    rcases hchange _ _ he with hsame | henabled
    · rw [hsame] at ha
      cases h with
      | nothing => cases ha
      | progress _ _ hfits => exact hfits.port a ha
    · obtain ⟨hlow, hhigh, -⟩ := a.usable (henabled a ha)
      exact allows_port hlow hhigh
  have hone : Json.DigitLimit.usual.allows (Json.digitCount 1) = true := by decide
  cases h with
  | nothing => exact ⟨hone, hport⟩
  | progress _ _ hfits => exact ⟨hfits.step, hport⟩

/-! ### Carrying it out -/

end DevEnv.CommandLine
