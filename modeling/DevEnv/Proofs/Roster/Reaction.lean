import DevEnv.Roster.Machine

/-!
All that one event can do to a roster: a list is asked for, another call leaves, a call ends with its
answer or without one, or the polling loop goes on. The theorems about runs rest on this list and do
not open the machine again.
-/

namespace DevEnv.Roster

set_option autoImplicit false

/-- The token of a call for a list. -/
def Waiting.token? (w : Waiting) : Option Nat :=
  match w.purpose with
  | .list _ token => some token
  | _ => none

namespace Machine

/-- What makes a roster ask for a list: the event, the machine that asks, and on whose behalf. -/
inductive Asks (m : Machine) : Event → Machine → Origin → Option Nat → Prop
  | refresh (caller : Nat) : Asks m (.refresh caller) m .refresh (some caller)
  | tick (caller : Nat) (free : m.roster.inFlight = 0) :
    Asks m (.tick caller) m .tick (some caller)
  | loop (due : m.due ≠ 0) (free : m.roster.inFlight = 0) :
    Asks m .beginTick { m with due := m.due - 1 } .loop none
  /-- An action has succeeded. -/
  | action {w : Waiting} (waits : w ∈ m.waiting) (acts : w.purpose = .act) :
    Asks m (.acted w.number (.ok ())) (m.without w) .action w.caller

/-- Calls other than those for a list. -/
inductive Issues : Event → Purpose → Nat → Call → Prop
  | inspect (caller : Nat) (id : String) : Issues (.inspect caller id) .details caller (.details id)
  | act (caller : Nat) (action : Action) (id : String) :
    Issues (.act caller action id) .act caller (.act action id)

/-- Calls that end with this value and leave the roster alone. -/
inductive Finishes (w : Waiting) : Event → Value → Prop
  | detailed (answer : Except Failure Container) (asks : w.purpose = .details) :
    Finishes w (.detailed w.number answer)
      (match answer with
      | .ok c => .container c
      | .error f => .failed f)
  | notActed (f : Failure) (acts : w.purpose = .act) :
    Finishes w (.acted w.number (.error f)) (.failed f)
  | abandoned (other : w.token? = none) : Finishes w (.abandon w.number) .cancelled

/-- Events that come to nothing but a change in the polling loop. -/
inductive Passes (m : Machine) : Event → Machine → Option Nat → Prop
  | tick (caller : Nat) (busy : m.roster.inFlight ≠ 0) : Passes m (.tick caller) m (some caller)
  | loop (due : m.due ≠ 0) (busy : m.roster.inFlight ≠ 0) :
    Passes m .beginTick { m with due := m.due - 1 } none

/-- An event and what it brings about. -/
inductive Reacts (m : Machine) : Event → Reaction → Prop
  | ask {e : Event} {asker : Machine} {origin : Origin} {caller : Option Nat}
    (asks : Asks m e asker origin caller) : Reacts m e (asker.ask origin caller)
  | issue {e : Event} {purpose : Purpose} {caller : Nat} {call : Call}
    (issues : Issues e purpose caller call) : Reacts m e (m.issue purpose (some caller) call)
  | listed {w : Waiting} {origin : Origin} {token : Nat}
    (answer : Except Failure (List Container)) (waits : w ∈ m.waiting)
    (list : w.purpose = .list origin token) :
    Reacts m (.listed w.number answer)
      ({ m.without w with roster := m.roster.receive token answer }.listEnded origin w.caller answer)
  | withdraw {w : Waiting} {origin : Origin} {token : Nat} (waits : w ∈ m.waiting)
    (list : w.purpose = .list origin token) :
    Reacts m (.abandon w.number)
      ({ m.without w with roster := m.roster.withdraw }.give w.caller .cancelled [])
  | finish {e : Event} {w : Waiting} {value : Value} (waits : w ∈ m.waiting)
    (finishes : Finishes w e value) : Reacts m e ((m.without w).give w.caller value [])
  | pass {e : Event} {later : Machine} {caller : Option Nat} (passes : Passes m e later caller) :
    Reacts m e (later.give caller .done [])
  | startPolling : Reacts m .startPolling { m with polling := true }.quiet
  | wake (polling : m.polling = true) : Reacts m .wake { m with due := m.due + 1 }.quiet
  | close : Reacts m .close m.close.quiet
  | notice {w : Waiting} (waits : w ∈ m.cancelled) :
    Reacts m (.notice w.number)
      { m with
        roster := m.roster.withdraw
        cancelled := m.cancelled.filter fun v => v.number != w.number }.quiet
  /-- Nothing is due, or no such call is under way. -/
  | ignore (e : Event) : Reacts m e m.quiet

theorem reacts (m : Machine) (e : Event) : Reacts m e (m.react e) := by
  cases e with
  | refresh caller => exact .ask (.refresh caller)
  | tick caller =>
    simp only [react, beginTick]
    split
    · exact .ask (.tick caller ‹_›)
    · exact .pass (.tick caller ‹_›)
  | inspect caller id => exact .issue (.inspect caller id)
  | act caller action id => exact .issue (.act caller action id)
  | startPolling => exact .startPolling
  | wake =>
    simp only [react]
    split
    · exact .wake ‹_›
    · exact .ignore _
  | beginTick =>
    simp only [react, beginTick]
    split
    · exact .ignore _
    · split
      · exact .ask (.loop ‹_› ‹_›)
      · exact .pass (.loop ‹_› ‹_›)
  | close => exact .close
  | notice number =>
    simp only [react]
    split
    · rename_i w found
      obtain rfl : w.number = number := by simpa using List.find?_some found
      exact .notice (List.mem_of_find?_eq_some found)
    · exact .ignore _
  | abandon number =>
    simp only [react]
    split
    · rename_i w found
      obtain rfl : w.number = number := by simpa using List.find?_some found
      have waits := List.mem_of_find?_eq_some found
      simp only [abandon]
      split
      · exact .withdraw waits ‹_›
      · rename_i other
        refine .finish waits (.abandoned ?_)
        cases purpose : w.purpose with
        | list origin token => exact absurd purpose (other origin token)
        | details | act => simp [Waiting.token?, purpose]
    · exact .ignore _
  | listed number answer =>
    simp only [react]
    split
    · rename_i w found
      obtain rfl : w.number = number := by simpa using List.find?_some found
      split
      · exact .listed answer (List.mem_of_find?_eq_some found) ‹_›
      · exact .ignore _
    · exact .ignore _
  | detailed number answer =>
    simp only [react]
    split
    · rename_i w found
      obtain ⟨rfl, asks⟩ : w.number = number ∧ w.purpose = .details := by
        simpa using List.find?_some found
      exact .finish (List.mem_of_find?_eq_some found) (.detailed answer asks)
    · exact .ignore _
  | acted number answer =>
    simp only [react]
    split
    · rename_i w found
      obtain ⟨rfl, acts⟩ : w.number = number ∧ w.purpose = .act := by
        simpa using List.find?_some found
      have waits := List.mem_of_find?_eq_some found
      split
      · exact .ask (.action waits acts)
      · exact .finish waits (.notActed _ acts)
    · exact .ignore _

end Machine

end DevEnv.Roster
