import EventDispatch.Proofs.Failure.Accounting
import EventDispatch.Proofs.Registry.Identity
import EventDispatch.Script.Play

/-!
# The first failure counts

Within an outermost fire of a manager that contains panics, the first failure of each handler
decides what is logged about the handler and whether its failure is reported; later failures change
nothing (`Reachable.first_failure_counts`). Handlers stand for single registrations here: an object
that is removed and added again comes back with other handlers.
-/

set_option autoImplicit false

namespace EventDispatch

variable {ν : Type} {app : Application ν}

/-- The level of the line that an entry makes in the log, if it makes one. -/
def Entry.level? (names : Naming) (entry : Entry ν) : Option Level :=
  (entry.fact.line? names).map (·.level)

/-- What is booked as a warning or an error about a handler is what the log shows about it. -/
theorem Entry.level?_eq_iff {entry : Entry ν} {m : ManagerId} {b : BoundHandler}
    (h : entry.handler? = some (m, b)) (names : Naming) :
    (entry.level? names = some .warn ↔ entry.fact.booking? = some (.warned b)) ∧
      (entry.level? names = some .error ↔ entry.fact.booking? = some (.erred b)) := by
  obtain ⟨scope, fact⟩ := entry
  cases fact with
  | attempted | called | succeeded | failed => simp [level?, Fact.line?, Fact.booking?]
  | undeliverable | handlerError =>
    cases h
    simp [level?, Fact.line?, Fact.booking?]
  | _ => cases h

/-- What is booked in a scope on the way from `s` to `t`. -/
def State.booked (sc : Scope) (s t : State ν) : List Booking :=
  (s.since t).filterMap (Entry.booking? sc)

/-- What an outermost fire of a manager that contains panics has booked about a handler when it ends
is what is due to the first failure of the handler in it, and the warnings and errors that it has
booked are the lines that the log shows about the handler. A number stands for one handler of one
manager. -/
theorem Reachable.first_failure_counts {s : State ν} (hs : Reachable app s) {sc : Scope}
    {event : Event} (hfire : OutermostFire s sc event)
    (hcontain : (app.settings sc.manager).containPanics = true) {t : State ν}
    (ht : EndsAt app s t) :
    (∀ i, Booking.account i (s.booked sc t)
      = Account.due app sc.manager (Booking.failures i (s.booked sc t)).head?) ∧
    (∀ {m m' : ManagerId} {b b' : BoundHandler}, t.Knows m b → t.Knows m' b' → b.id = b'.id →
      m = m' ∧ b = b') ∧
    ∀ entry ∈ s.since t, ∀ m b, entry.handler? = some (m, b) →
      (entry.level? app.names = some .warn ↔ entry.fact.booking? = some (.warned b)) ∧
      (entry.level? app.names = some .error ↔ entry.fact.booking? = some (.erred b)) :=
  ⟨(hfire.run_since hs ht).account_eq hcontain rfl, (ht.1.reachable hs).identified.unique,
    fun _ _ _ _ hhandler => Entry.level?_eq_iff hhandler app.names⟩

/-- A worker that fails, a monitor that asks it to try again when it hears of a failure and panics
then, and an inspector of the type above that of the worker's events. -/
def retry : Script.Cast where
  hierarchy := ⟨fun i => if i = 0 then some (.custom 1) else none⟩
  names := ⟨fun _ => "Event", fun _ => .labelled "Event"⟩
  managers := [{}]
  roles := [
    some ⟨"Worker", false, [⟨⟨.invoke, .custom 0, "work"⟩, false,
      [⟨.fail ⟨"broken", []⟩, 0, none, none⟩]⟩]⟩,
    some ⟨"Monitor", false, [⟨⟨.invoke, .observerFailed, "retry"⟩, false,
      [⟨.act ⟨.fire (.plain 0 "") .typed, 0, .direct⟩ false, 0, some 1, none⟩,
        ⟨.panic (.text "again"), 0, none, none⟩]⟩]⟩,
    some ⟨"Inspector", false, [⟨⟨.invoke, .custom 1, "inspect"⟩, false, []⟩]⟩]

/-- The state in which the event of a fire is about to be dispatched to them. -/
def retryState : State Script.Note :=
  (State.start (World.after retry.application 20 {} [{ operation := .add 0 },
    { operation := .add 1 }, { operation := .add 2 }]) { operation := .fire (.plain 0 "") }).steps
      retry.application 2

/-- The worker fails twice and is reported once, the monitor fails on that report and is not
reported, and the inspector, whose part is missing from the event, is warned about once. -/
theorem retry_books_first_failures_only :
    Reachable retry.application retryState ∧
      OutermostFire retryState ⟨0, 0⟩ (.plain 0 "") ∧
      EndsAt retry.application retryState (retryState.steps retry.application 36) ∧
      let bs := retryState.booked ⟨0, 0⟩ (retryState.steps retry.application 36)
      (Booking.failures 0 bs).length = 2 ∧
      Booking.account 0 bs = ⟨0, 1, [.observerFailed 0 ⟨"Worker", "work", .invoke, .custom 0⟩
        (.plain 0 "") (.returned ⟨"broken", []⟩)]⟩ ∧
      Booking.account 1 bs = ⟨0, 1, []⟩ ∧ Booking.account 2 bs = ⟨1, 0, []⟩ := by
  have hs : Reachable retry.application retryState :=
    (Reachable.after _ (fun _ => .start _) (by decide +kernel)).steps 2
  have hfire : OutermostFire retryState ⟨0, 0⟩ (.plain 0 "") :=
    ⟨⟨.request, rfl⟩, ⟨true, _, [], rfl, rfl⟩⟩
  have hends : EndsAt retry.application retryState (retryState.steps retry.application 36) :=
    .of_steps (by decide +kernel) (by decide +kernel)
  obtain ⟨haccount, -⟩ := hs.first_failure_counts hfire rfl hends
  refine ⟨hs, hfire, hends, by decide +kernel, ?_, ?_, ?_⟩
  · exact (haccount 0).trans (by decide +kernel)
  · exact (haccount 1).trans (by decide +kernel)
  · exact (haccount 2).trans (by decide +kernel)

end EventDispatch
