import DevEnv.PortProbe.Machine

/-!
All that one event can do to a port probe. The theorems about runs rest on this list and do not open
the machine again.
-/

namespace DevEnv.PortProbe

set_option autoImplicit false

namespace Machine

@[simp] theorem quiet_machine (m : Machine) : m.quiet.machine = m := rfl

@[simp] theorem quiet_called (m : Machine) : m.quiet.called = none := rfl

@[simp] theorem query_called (m : Machine) (t : Numbered) :
    (m.query t).called = some ⟨m.issued, t.port⟩ := rfl

/-- A query has been answered. -/
def withoutQuery (m : Machine) (q : Numbered) : Machine :=
  { m with queries := m.queries.filter fun p => p.number != q.number }

/-- The answer is kept. -/
def keep (m : Machine) (q : Numbered) (answer : Except Failure Bool) : Machine :=
  { m.withoutQuery q with port := some q.port, inUse := some (meansInUse answer) }

theorem answered_of_requested {m : Machine} {q : Numbered} (h : m.requested = some q.port)
    (answer : Except Failure Bool) : m.answered q answer = m.keep q answer := by
  simp [answered, keep, withoutQuery, h]

theorem answered_of_not_requested {m : Machine} {q : Numbered} (h : m.requested ≠ some q.port)
    (answer : Except Failure Bool) : m.answered q answer = m.withoutQuery q := by
  simp [answered, withoutQuery, h]

/-- An event and what it brings about. -/
inductive Reacts (m : Machine) : Event → Reaction → Prop
  | check (port : Int) : Reacts m (.check port) (m.check port).quiet
  | query {timer : Nat} {t : Numbered}
    (found : m.timers.find? (fun t => t.number == timer) = some t) :
    Reacts m (.expire timer) (m.query t)
  /-- No such timer is left. -/
  | spent {timer : Nat} (missing : m.timers.find? (fun t => t.number == timer) = none) :
    Reacts m (.expire timer) m.quiet
  | keep {number : Nat} {q : Numbered} (answer : Except Failure Bool)
    (found : m.queries.find? (fun q => q.number == number) = some q)
    (current : m.requested = some q.port) :
    Reacts m (.answer number answer) ⟨m.keep q answer, none, logOfAnswer q answer⟩
  /-- Another port has been requested by now. -/
  | discard {number : Nat} {q : Numbered} (answer : Except Failure Bool)
    (found : m.queries.find? (fun q => q.number == number) = some q)
    (late : m.requested ≠ some q.port) :
    Reacts m (.answer number answer) ⟨m.withoutQuery q, none, logOfAnswer q answer⟩
  /-- No such query waits. -/
  | unasked {number : Nat} (answer : Except Failure Bool)
    (missing : m.queries.find? (fun q => q.number == number) = none) :
    Reacts m (.answer number answer) m.quiet
  | stop {timer : Nat} (holds : m.held = some timer) :
    Reacts m .close { m with timers := m.otherTimers, closing := m.closing + 1 }.quiet
  | unheld (holds : m.held = none) : Reacts m .close m.quiet
  | letGo (waits : m.closing ≠ 0) :
    Reacts m .closed { m with held := none, closing := m.closing - 1 }.quiet
  | notClosing (waits : m.closing = 0) : Reacts m .closed m.quiet

theorem reacts (m : Machine) (e : Event) : Reacts m e (m.react e) := by
  cases e with
  | check port => exact .check port
  | expire timer =>
    simp only [react]
    split
    · exact .query ‹_›
    · exact .spent ‹_›
  | answer number answer =>
    simp only [react]
    split
    · rename_i q found
      by_cases current : m.requested = some q.port
      · rw [answered_of_requested current]
        exact .keep answer found current
      · rw [answered_of_not_requested current]
        exact .discard answer found current
    · exact .unasked answer ‹_›
  | close =>
    simp only [react]
    split
    · rename_i holds
      exact .unheld (by simpa using holds)
    · rename_i holds
      obtain ⟨timer, holds⟩ := Option.ne_none_iff_exists'.mp (by simpa using holds)
      exact .stop holds
  | closed =>
    simp only [react]
    split
    · exact .notClosing ‹_›
    · exact .letGo ‹_›

end Machine

end DevEnv.PortProbe
