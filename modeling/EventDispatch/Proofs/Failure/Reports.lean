import EventDispatch.Proofs.Failure.Accounting
import EventDispatch.Proofs.Registry.Roster

/-!
# Reports

The reports that the ledger of a scope holds are those of the first failures that call for one, each
with the number of its handler (`Ledger.Run.prompt`), and they are the reports that are dispatched
in the scope (`State.reports_since`). So the dispatches of a fire show, report for report, whose
first failures there were.
-/

set_option autoImplicit false

namespace EventDispatch

variable {ν : Type} {app : Application ν} {m : ManagerId}

/-! ## First failures -/

namespace FailedAttempt

/-- Whether the first failure of a handler calls for a report if it is this one. -/
def isReportable (app : Application ν) (m : ManagerId) (a : FailedAttempt) : Bool :=
  !a.failure.isMechanical && !a.event.isFailureReport app.hierarchy (app.maxDepth m)

/-- Enters a failed attempt into a list of first failures, unless its handler is in it already. -/
def enter (firsts : List FailedAttempt) (a : FailedAttempt) : List FailedAttempt :=
  if a.handler.id ∈ firsts.map (·.handler.id) then firsts else firsts ++ [a]

/-- The first failed attempt of each handler, in order. -/
def firsts (attempts : List FailedAttempt) : List FailedAttempt := attempts.foldl enter []

theorem firsts_append (as : List FailedAttempt) (a : FailedAttempt) :
    firsts (as ++ [a]) = enter (firsts as) a := by
  simp [firsts]

end FailedAttempt

namespace Booking

/-- The failed attempt that is booked. -/
def attempt? : Booking → Option FailedAttempt
  | .failed a => some a
  | _ => none

/-- The report that is booked, with the number of its handler. -/
def dispatched? : Booking → Option (Nat × Event)
  | .reported i event => some (i, event)
  | _ => none

/-- The failed attempts that are booked. -/
def attempts (bs : List Booking) : List FailedAttempt := bs.filterMap attempt?

theorem attempts_append (bs cs : List Booking) :
    attempts (bs ++ cs) = attempts bs ++ attempts cs :=
  List.filterMap_append

theorem attempts_failed (a : FailedAttempt) : attempts [.failed a] = [a] := rfl

end Booking

namespace Ledger

/-- The reports that are booked, each with the number of its handler. -/
def reports (bs : List Booking) : List (Nat × Event) := bs.filterMap Booking.dispatched?

theorem reports_append (bs cs : List Booking) : reports (bs ++ cs) = reports bs ++ reports cs :=
  List.filterMap_append

theorem reported_eq (bs : List Booking) : reported bs = (reports bs).map Prod.fst := by
  rw [reported, reports, List.map_filterMap]
  congr 1
  funext booking
  cases booking <;> rfl

/-- What is owed to the first failures: the guard holds their handlers, and the reports are those of
the failures that call for one. -/
structure Prompt (app : Application ν) (m : ManagerId) (L : Ledger) : Prop where
  guard_eq : L.guard = (FailedAttempt.firsts (Booking.attempts L.bookings)).map (·.handler.id)
  reports_eq : reports L.bookings
    = ((FailedAttempt.firsts (Booking.attempts L.bookings)).filter (·.isReportable app m)).map
        fun a => (a.handler.id, a.report)

section Bookings

variable {g : List Nat} {bs : List Booking} {ws : List FailedAttempt} {a : FailedAttempt}

/-- The first failure of a handler is entered, and reported if it calls for a report. -/
theorem Prompt.enter (h : Prompt app m ⟨g, bs, ws⟩) (hfailed : a.handler.id ∉ g)
    {cs : List Booking} (hattempts : Booking.attempts cs = [a])
    (hreports : reports cs = if a.isReportable app m then [(a.handler.id, a.report)] else [])
    (ws' : List FailedAttempt) : Prompt app m ⟨g ++ [a.handler.id], bs ++ cs, ws'⟩ := by
  obtain ⟨hguard, hbooked⟩ := h
  simp only at hguard hbooked
  have hfirsts : FailedAttempt.firsts (Booking.attempts (bs ++ cs))
      = FailedAttempt.firsts (Booking.attempts bs) ++ [a] := by
    rw [Booking.attempts_append, hattempts, FailedAttempt.firsts_append, FailedAttempt.enter,
      if_neg (hguard ▸ hfailed)]
  constructor
  · simp only [hfirsts, List.map_append, hguard]
    rfl
  · simp only [hfirsts, reports_append, hbooked, hreports, List.filter_append, List.map_append]
    cases ha : a.isReportable app m <;> simp [ha]

/-- A later failure is not entered again. -/
theorem Prompt.again (h : Prompt app m ⟨g, bs, ws⟩) (hfailed : a.handler.id ∈ g) :
    Prompt app m ⟨g, bs ++ [.failed a], ws⟩ := by
  obtain ⟨hguard, hbooked⟩ := h
  simp only at hguard hbooked
  have hfirsts : FailedAttempt.firsts (Booking.attempts (bs ++ [.failed a]))
      = FailedAttempt.firsts (Booking.attempts bs) := by
    rw [Booking.attempts_append, Booking.attempts_failed, FailedAttempt.firsts_append,
      FailedAttempt.enter, if_pos (hguard ▸ hfailed)]
  constructor
  · simp only [hfirsts, hguard]
  · simp only [hfirsts, reports_append, hbooked]
    exact List.append_nil _

/-- The end of a report changes neither the first failures nor the reports. -/
theorem Prompt.settle (h : Prompt app m ⟨g, bs, ws⟩) (b : BoundHandler) (ws' : List FailedAttempt) :
    Prompt app m ⟨g, bs ++ [.erred b], ws'⟩ := by
  have hattempts : Booking.attempts (bs ++ [.erred b]) = Booking.attempts bs := by
    rw [Booking.attempts_append]
    exact List.append_nil _
  constructor
  · simp only [hattempts]
    exact h.guard_eq
  · simp only [hattempts, reports_append]
    exact (List.append_nil _).trans h.reports_eq

end Bookings

theorem Step.prompt {L L' : Ledger} (h : Step app m L L') (hL : Prompt app m L) :
    Prompt app m L' := by
  cases h with
  | silent a hfailed => exact hL.again hfailed
  | undeliverable a hfailed hmechanical =>
    have hnot : a.isReportable app m = false := by simp [FailedAttempt.isReportable, hmechanical]
    exact hL.enter hfailed rfl (by rw [hnot]; rfl) _
  | unreported a hfailed hmechanical hreport =>
    have hnot : a.isReportable app m = false := by simp [FailedAttempt.isReportable, hreport]
    exact hL.enter hfailed rfl (by rw [hnot]; rfl) _
  | report a hfailed hmechanical hreport =>
    have hreportable : a.isReportable app m = true := by
      simp [FailedAttempt.isReportable, hmechanical, hreport]
    exact hL.enter hfailed rfl (by rw [hreportable]; rfl) _
  | settled a => exact hL.settle a.handler _
  | lost a hcontain => exact ⟨hL.guard_eq, hL.reports_eq⟩

theorem Run.prompt {L : Ledger} (h : Run app m L) : Prompt app m L := by
  induction h with
  | empty => exact ⟨rfl, rfl⟩
  | step _ hstep ih => exact hstep.prompt ih

end Ledger

/-! ## Dispatches of reports -/

/-- Whether a dispatch is that of a report, which the manager begins itself for a failed handler. -/
def Begun.isReport (d : Begun) : Bool :=
  match d.origin with
  | .report _ => true
  | _ => false

/-- The report that a dispatch in a scope is about, with the number of its handler. -/
def Begun.reportIn? (sc : Scope) (d : Begun) : Option (Nat × Event) :=
  match d.origin with
  | .report i => if d.scope = sc then some (i, d.event) else none
  | _ => none

/-- An entry books a report in a scope if it is about the dispatch of that report. -/
theorem Entry.dispatched?_booking? (sc : Scope) (entry : Entry ν) :
    (entry.booking? sc).bind Booking.dispatched? = entry.begun?.bind (Begun.reportIn? sc) := by
  obtain ⟨scope, fact⟩ := entry
  by_cases hscope : scope = sc
  · cases fact with
    | dispatched origin delivery =>
      cases origin <;>
        simp [booking?, begun?, Fact.booking?, Booking.dispatched?, Begun.reportIn?, hscope]
    | _ => simp [booking?, begun?, Fact.booking?, Booking.dispatched?, hscope]
  · cases fact with
    | dispatched origin delivery =>
      cases origin <;> simp [booking?, begun?, Begun.reportIn?, hscope]
    | _ => simp [booking?, begun?, hscope]

/-- A control is about to book a report in a scope if it is about to dispatch that report. -/
theorem Control.dispatched?_booking? (sc : Scope) (control : Control ν) :
    (control.booking? sc).bind Booking.dispatched? = control.begun?.bind (Begun.reportIn? sc) := by
  cases control with
  | dispatch scope origin event =>
    cases origin with
    | report i =>
      by_cases hscope : scope = sc <;>
        simp [booking?, begun?, Booking.dispatched?, Begun.reportIn?, hscope]
    | _ => rfl
  | _ => rfl

/-- The reports that are booked in a scope are those that are dispatched in it. -/
theorem State.reports_bookings (sc : Scope) (s : State ν) :
    Ledger.reports (s.bookings sc) = s.dispatches.filterMap (Begun.reportIn? sc) := by
  have hentries : (s.world.read (Entry.booking? sc)).filterMap Booking.dispatched?
      = (s.world.read Entry.begun?).filterMap (Begun.reportIn? sc) := by
    rw [World.read, World.read, List.filterMap_filterMap, List.filterMap_filterMap]
    exact congrArg (List.filterMap · _) (funext (Entry.dispatched?_booking? sc))
  have hcontrol : (s.control.booking? sc).toList.filterMap Booking.dispatched?
      = s.control.begun?.toList.filterMap (Begun.reportIn? sc) := by
    have hbind := Control.dispatched?_booking? sc s.control
    cases hbooking : s.control.booking? sc <;> cases hbegun : s.control.begun? <;>
      simp_all [List.filterMap_cons]
  rw [Ledger.reports, State.bookings, State.dispatches, List.filterMap_append,
    List.filterMap_append, hentries, hcontrol]

/-- What is booked as reports on a way is what is dispatched as reports on it. -/
theorem State.reports_since {s t : State ν} {sc : Scope} {ds : List Begun} {bs : List Booking}
    (hds : t.dispatches = s.dispatches ++ ds) (hbs : t.bookings sc = s.bookings sc ++ bs) :
    Ledger.reports bs = ds.filterMap (Begun.reportIn? sc) := by
  have hbooked := t.reports_bookings sc
  rw [hbs, hds, Ledger.reports_append, List.filterMap_append, State.reports_bookings] at hbooked
  exact List.append_cancel_left hbooked

end EventDispatch
