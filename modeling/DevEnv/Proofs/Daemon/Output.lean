import DevEnv.Proofs.Daemon.Escape

/-!
The output of builds. A build that returns its chunks and one that fails with them as its log both keep
the streams of the chunks, all of them and in order; failures of other kinds keep none.
-/

namespace DevEnv

set_option autoImplicit false

namespace Daemon

/-! ### Streams -/

def Textual (chunks : List Json) : Prop :=
  ∀ chunk ∈ chunks, ∀ v, streamOf? chunk = some v → ∃ s, v = .text s

theorem refuse_inj {α : Type} {e e' : EngineFailure} (h : (refuse e : Except Escape α) = refuse e') :
    e = e' :=
  Failure.engine.inj (Escape.failed.inj (Except.error.inj h))

theorem eq_connectionRefusal {α : Type} {fault : Fault} {e : EngineFailure}
    (h : (explainConnect fault : Except Escape α) = refuse e) : e = connectionRefusal fault := by
  cases fault with
  | connection | runtime | interrupt => cases h
  | _ => exact (refuse_inj h).symm

theorem Begins.unique {σ : Type} {client : Client σ} {s t u : σ} {connected : Bool}
    (h : Begins client s connected t) (h' : Begins client s connected u) : t = u := by
  cases h with
  | already =>
    cases h'
    rfl
  | opened first second =>
    cases h' with
    | opened first' second' =>
      obtain rfl := (Prod.mk.inj (first.symm.trans first')).2
      exact (Prod.mk.inj (second.symm.trans second')).2

/-- An engine that builds from a text, in whatever state its client and daemon are. -/
structure Attempt (σ : Type) where
  client : Client σ
  connected : Bool
  standIns : Text.StandIns
  text : String
  tag : String
  daemon : σ

namespace Attempt

variable {σ : Type} {a : Attempt σ} {chunks : List Json}

def order (a : Attempt σ) : BuildOrder := ⟨a.text, a.tag, false, true⟩

def answer (a : Attempt σ) : Except Escape BuildResult :=
  (a.client.reach a.connected (a.client.buildText a.standIns a.text a.tag) a.daemon).1

/-- The client gets the order in this state. -/
structure Sends (a : Attempt σ) (t : σ) : Prop where
  begins : Begins a.client a.daemon a.connected t
  whole : a.standIns.occurIn a.text = false

theorem Sends.unique {t u : σ} (h : a.Sends t) (h' : a.Sends u) : t = u :=
  h.begins.unique h'.begins

end Attempt

end Daemon

end DevEnv
