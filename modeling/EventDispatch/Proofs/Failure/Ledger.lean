import EventDispatch.Machine.Program
import EventDispatch.Observer.Member

/-!
# The ledger of failures

What an outermost fire does about failures is a matter of three lists: the handlers that have failed
(the guard), what has been booked about failures, and the failed attempts that wait for their
report. `Ledger.Step` says how one failure, or the end of one report, changes them. From this alone
it follows that the first failure of each handler decides everything that is booked about it
(`Ledger.Run.account_eq`), and that no handler is entered into the guard or reported twice
(`Ledger.Run.frugal`).
-/

set_option autoImplicit false

namespace EventDispatch

variable {ν : Type}

/-- A failed attempt: the handler, the event that was being delivered, and the failure. -/
structure FailedAttempt where
  handler : BoundHandler
  event : Event
  failure : Failure
  deriving DecidableEq, Repr

/-- The event that reports a failed attempt. -/
def FailedAttempt.report (a : FailedAttempt) : Event :=
  .observerFailed a.handler.observer a.handler.descriptor a.event a.failure

/-- What is booked about failures: a failed attempt, a warning about a handler, an error about a
handler, and the dispatch of a report for the handler with a number. -/
inductive Booking where
  | failed (attempt : FailedAttempt)
  | warned (handler : BoundHandler)
  | erred (handler : BoundHandler)
  | reported (handler : Nat) (event : Event)
  deriving DecidableEq, Repr

/-! ## The account of a handler -/

namespace Booking

variable (i : Nat)

/-- The failed attempt of handler `i` that is booked. -/
def failure? : Booking → Option FailedAttempt
  | .failed a => if a.handler.id = i then some a else none
  | _ => none

/-- Whether a warning about handler `i` is booked. -/
def isWarning : Booking → Bool
  | .warned b => b.id = i
  | _ => false

/-- Whether an error about handler `i` is booked. -/
def isError : Booking → Bool
  | .erred b => b.id = i
  | _ => false

/-- The report for handler `i` that is booked. -/
def report? : Booking → Option Event
  | .reported j event => if j = i then some event else none
  | _ => none

/-- The handler for which a report is booked. -/
def reportedHandler? : Booking → Option Nat
  | .reported j _ => some j
  | _ => none

/-- The failed attempts of handler `i`, in the order in which they ended. -/
def failures (bs : List Booking) : List FailedAttempt := bs.filterMap (failure? i)

theorem failures_append (bs cs : List Booking) :
    failures i (bs ++ cs) = failures i bs ++ failures i cs :=
  List.filterMap_append

end Booking

/-- What comes of the failures of one handler: the numbers of warnings and of errors that are logged
about it, and the reports that are dispatched for it. -/
structure Account where
  warnings : Nat
  errors : Nat
  reports : List Event
  deriving DecidableEq, Repr

instance : Add Account :=
  ⟨fun x y => ⟨x.warnings + y.warnings, x.errors + y.errors, x.reports ++ y.reports⟩⟩

theorem Account.add_def (x y : Account) :
    x + y = ⟨x.warnings + y.warnings, x.errors + y.errors, x.reports ++ y.reports⟩ := rfl

@[simp] theorem Account.zero_add (x : Account) : ⟨0, 0, []⟩ + x = x := by
  simp [Account.add_def]

@[simp] theorem Account.add_zero (x : Account) : x + ⟨0, 0, []⟩ = x := by
  simp [Account.add_def]

/-- What is booked about handler `i`. -/
def Booking.account (i : Nat) (bs : List Booking) : Account where
  warnings := bs.countP (isWarning i)
  errors := bs.countP (isError i)
  reports := bs.filterMap (report? i)

/-- What shall come of a handler's failures, given the first of them, if there is one. A failure
that lies in the event gives a warning; one on a failure report gives an error; any other gives an
error and a report. -/
def Account.due (app : Application ν) (m : ManagerId) : Option FailedAttempt → Account
  | none => ⟨0, 0, []⟩
  | some a =>
    if a.failure.isMechanical then ⟨1, 0, []⟩
    else if a.event.isFailureReport app.hierarchy (app.maxDepth m) then ⟨0, 1, []⟩
    else ⟨0, 1, [a.report]⟩

/-! ## The ledger -/

/-- The guard of a scope, what is booked, and the failed attempts that wait for their report. -/
structure Ledger where
  guard : List Nat := []
  bookings : List Booking := []
  waiting : List FailedAttempt := []

namespace Ledger

/-- What one step can do to the ledger of a scope of the manager `m`. -/
inductive Step (app : Application ν) (m : ManagerId) : Ledger → Ledger → Prop
  | silent {g bs ws} (a : FailedAttempt) (hfailed : a.handler.id ∈ g) :
      Step app m ⟨g, bs, ws⟩ ⟨g, bs ++ [.failed a], ws⟩
  | undeliverable {g bs ws} (a : FailedAttempt) (hfailed : a.handler.id ∉ g)
      (hmechanical : a.failure.isMechanical = true) :
      Step app m ⟨g, bs, ws⟩ ⟨g ++ [a.handler.id], bs ++ [.failed a, .warned a.handler], ws⟩
  | unreported {g bs ws} (a : FailedAttempt) (hfailed : a.handler.id ∉ g)
      (hmechanical : a.failure.isMechanical = false)
      (hreport : a.event.isFailureReport app.hierarchy (app.maxDepth m) = true) :
      Step app m ⟨g, bs, ws⟩ ⟨g ++ [a.handler.id], bs ++ [.failed a, .erred a.handler], ws⟩
  | report {g bs ws} (a : FailedAttempt) (hfailed : a.handler.id ∉ g)
      (hmechanical : a.failure.isMechanical = false)
      (hreport : a.event.isFailureReport app.hierarchy (app.maxDepth m) = false) :
      Step app m ⟨g, bs, ws⟩
        ⟨g ++ [a.handler.id], bs ++ [.failed a, .reported a.handler.id a.report], a :: ws⟩
  | settled {g bs ws} (a : FailedAttempt) :
      Step app m ⟨g, bs, a :: ws⟩ ⟨g, bs ++ [.erred a.handler], ws⟩
  | lost {g bs ws} (a : FailedAttempt) (hcontain : (app.settings m).containPanics = false) :
      Step app m ⟨g, bs, a :: ws⟩ ⟨g, bs, ws⟩

/-- The ledgers that come of an empty one. -/
inductive Run (app : Application ν) (m : ManagerId) : Ledger → Prop
  | empty : Run app m {}
  | step {L L' : Ledger} : Run app m L → Step app m L L' → Run app m L'

variable {app : Application ν} {m : ManagerId}

/-- A step that leaves some bookings and some waiting attempts in place would happen without them.
-/
theorem Step.of_append {g g' : List Nat} {bs₀ bs bs' : List Booking}
    {ws₀ ws ws' : List FailedAttempt}
    (h : Step app m ⟨g, bs₀ ++ bs, ws ++ ws₀⟩ ⟨g', bs', ws' ++ ws₀⟩) :
    ∃ bs'', bs' = bs₀ ++ bs'' ∧ Step app m ⟨g, bs, ws⟩ ⟨g', bs'', ws'⟩ := by
  generalize hB : bs₀ ++ bs = B, hW : ws ++ ws₀ = W, hW' : ws' ++ ws₀ = W' at h
  cases h with
  | silent a hfailed =>
    have hws : ws = ws' := List.append_cancel_right (hW.trans hW'.symm)
    subst hB hws
    exact ⟨_, List.append_assoc .., .silent a hfailed⟩
  | undeliverable a hfailed hmechanical =>
    have hws : ws = ws' := List.append_cancel_right (hW.trans hW'.symm)
    subst hB hws
    exact ⟨_, List.append_assoc .., .undeliverable a hfailed hmechanical⟩
  | unreported a hfailed hmechanical hreport =>
    have hws : ws = ws' := List.append_cancel_right (hW.trans hW'.symm)
    subst hB hws
    exact ⟨_, List.append_assoc .., .unreported a hfailed hmechanical hreport⟩
  | report a hfailed hmechanical hreport =>
    have hws : a :: ws = ws' :=
      List.append_cancel_right ((List.cons_append ..).trans (by rw [hW, hW']))
    subst hB hws
    exact ⟨_, List.append_assoc .., .report a hfailed hmechanical hreport⟩
  | settled a =>
    have hws : ws = a :: ws' :=
      List.append_cancel_right (hW.trans (by rw [List.cons_append, hW']))
    subst hB hws
    exact ⟨_, List.append_assoc .., .settled a⟩
  | lost a hcontain =>
    have hws : ws = a :: ws' :=
      List.append_cancel_right (hW.trans (by rw [List.cons_append, hW']))
    subst hB hws
    exact ⟨_, rfl, .lost a hcontain⟩

/-! ## The first failure counts -/

/-- What is booked about handler `i`, with an error for every report of it that is under way. -/
def prospect (L : Ledger) (i : Nat) : Account where
  warnings := L.bookings.countP (Booking.isWarning i)
  errors := L.bookings.countP (Booking.isError i) + L.waiting.countP (·.handler.id = i)
  reports := L.bookings.filterMap (Booking.report? i)

theorem prospect_append (g g' g'' : List Nat) (bs cs : List Booking) (us ws : List FailedAttempt)
    (i : Nat) :
    prospect ⟨g, bs ++ cs, us ++ ws⟩ i = prospect ⟨g', bs, ws⟩ i + prospect ⟨g'', cs, us⟩ i := by
  simp only [prospect, Account.add_def, List.countP_append, List.filterMap_append,
    Account.mk.injEq, true_and, and_true]
  omega

/-- The guard holds the handlers that have failed, and what is booked is due to the first failure.
-/
structure Balanced (app : Application ν) (m : ManagerId) (L : Ledger) : Prop where
  guard_iff : ∀ i, i ∈ L.guard ↔ Booking.failures i L.bookings ≠ []
  prospect_eq : ∀ i, L.prospect i = Account.due app m (Booking.failures i L.bookings).head?

section Balance

variable {g : List Nat} {bs : List Booking} {ws : List FailedAttempt}

/-- The first failure of a handler makes the account of the handler and touches no other. -/
theorem Balanced.enter (h : Balanced app m ⟨g, bs, ws⟩) {a : FailedAttempt}
    (hfailed : a.handler.id ∉ g) {cs : List Booking} (us : List FailedAttempt)
    (hcs : ∀ i, Booking.failures i cs = if a.handler.id = i then [a] else [])
    (hdue : ∀ i, prospect ⟨[], cs, us⟩ i
      = if a.handler.id = i then Account.due app m (some a) else ⟨0, 0, []⟩) :
    Balanced app m ⟨g ++ [a.handler.id], bs ++ cs, us ++ ws⟩ := by
  constructor
  · intro i
    have hi : i ∈ g ↔ Booking.failures i bs ≠ [] := h.guard_iff i
    rw [Booking.failures_append, hcs, List.mem_append, List.mem_singleton, hi]
    by_cases heq : a.handler.id = i
    · simp [heq]
    · simp [heq, Ne.symm heq]
  · intro i
    have hi : prospect ⟨g, bs, ws⟩ i = _ := h.prospect_eq i
    rw [prospect_append _ g [], hi, hdue, Booking.failures_append, hcs]
    by_cases heq : a.handler.id = i
    · -- Nothing was booked about the handler before.
      have hnone : Booking.failures i bs = [] :=
        Classical.not_not.1 fun hne => hfailed (heq ▸ (h.guard_iff i).2 hne)
      simp [heq, hnone, Account.due]
    · simp [heq]

/-- A later failure changes no account. -/
theorem Balanced.again (h : Balanced app m ⟨g, bs, ws⟩) {a : FailedAttempt}
    (hfailed : a.handler.id ∈ g) : Balanced app m ⟨g, bs ++ [.failed a], ws⟩ := by
  have hfailures (i : Nat) : Booking.failures i (bs ++ [.failed a])
      = Booking.failures i bs ++ if a.handler.id = i then [a] else [] := by
    rw [Booking.failures_append]
    by_cases heq : a.handler.id = i <;> simp [Booking.failures, Booking.failure?, heq]
  constructor
  · intro i
    have hi : i ∈ g ↔ Booking.failures i bs ≠ [] := h.guard_iff i
    rw [hfailures]
    by_cases heq : a.handler.id = i
    · subst heq
      simp [hfailed]
    · simpa [heq] using hi
  · intro i
    have hi : prospect ⟨g, bs, ws⟩ i = _ := h.prospect_eq i
    have hsame : prospect ⟨g, bs ++ [.failed a], ws⟩ i = prospect ⟨g, bs, ws⟩ i := by
      simp [prospect, Booking.isWarning, Booking.isError, Booking.report?]
    rw [hsame, hi, hfailures]
    by_cases heq : a.handler.id = i
    · obtain ⟨x, xs, hxs⟩ := List.exists_cons_of_ne_nil ((h.guard_iff i).1 (heq ▸ hfailed))
      have hxs : Booking.failures i bs = x :: xs := hxs
      simp [hxs]
    · simp [heq]

/-- The end of a report gives the error that the report has been waiting for. -/
theorem Balanced.settle {a : FailedAttempt} (h : Balanced app m ⟨g, bs, a :: ws⟩) :
    Balanced app m ⟨g, bs ++ [.erred a.handler], ws⟩ := by
  have hfailures (i : Nat) : Booking.failures i (bs ++ [.erred a.handler])
      = Booking.failures i bs := by
    rw [Booking.failures_append]
    exact List.append_nil _
  constructor
  · intro i
    rw [hfailures]
    exact h.guard_iff i
  · intro i
    have hi : prospect ⟨g, bs, a :: ws⟩ i = _ := h.prospect_eq i
    rw [hfailures, ← hi]
    by_cases heq : a.handler.id = i
    · simp [prospect, Booking.isWarning, Booking.isError, Booking.report?, heq]
      omega
    · simp [prospect, Booking.isWarning, Booking.isError, Booking.report?, heq]

end Balance

theorem Step.balanced {L L' : Ledger} (hcontain : (app.settings m).containPanics = true)
    (h : Step app m L L') (hL : Balanced app m L) : Balanced app m L' := by
  cases h with
  | silent a hfailed => exact hL.again hfailed
  | undeliverable a hfailed hmechanical =>
    apply hL.enter hfailed []
    · intro i
      by_cases heq : a.handler.id = i <;> simp [Booking.failures, Booking.failure?, heq]
    · intro i
      by_cases heq : a.handler.id = i <;>
        simp [prospect, Booking.isWarning, Booking.isError, Booking.report?, heq, Account.due,
          hmechanical]
  | unreported a hfailed hmechanical hreport =>
    apply hL.enter hfailed []
    · intro i
      by_cases heq : a.handler.id = i <;> simp [Booking.failures, Booking.failure?, heq]
    · intro i
      by_cases heq : a.handler.id = i <;>
        simp [prospect, Booking.isWarning, Booking.isError, Booking.report?, heq, Account.due,
          hmechanical, hreport]
  | report a hfailed hmechanical hreport =>
    -- The error that belongs to the report is still to come; the waiting attempt stands for it.
    apply hL.enter hfailed [a]
    · intro i
      by_cases heq : a.handler.id = i <;> simp [Booking.failures, Booking.failure?, heq]
    · intro i
      by_cases heq : a.handler.id = i <;>
        simp [prospect, Booking.isWarning, Booking.isError, Booking.report?, heq, Account.due,
          hmechanical, hreport, List.filterMap_cons]
  | settled a => exact hL.settle
  | lost a hlost => exact absurd (hcontain.symm.trans hlost) (by decide)

theorem Run.balanced {L : Ledger} (hcontain : (app.settings m).containPanics = true)
    (h : Run app m L) : Balanced app m L := by
  induction h with
  | empty => exact ⟨fun i => by simp [Booking.failures], fun i => rfl⟩
  | step _ hstep ih => exact hstep.balanced hcontain ih

/-- With no report under way, what is booked about a handler is what is due to its first failure. -/
theorem Run.account_eq {L : Ledger} (hcontain : (app.settings m).containPanics = true)
    (h : Run app m L) (hwaiting : L.waiting = []) (i : Nat) :
    Booking.account i L.bookings
      = Account.due app m (Booking.failures i L.bookings).head? := by
  rw [← (h.balanced hcontain).prospect_eq i, prospect, hwaiting]
  rfl

/-! ## The guard -/

/-- The handlers for which reports are booked, in order. -/
def reported (bs : List Booking) : List Nat := bs.filterMap Booking.reportedHandler?

theorem reported_append (bs cs : List Booking) :
    reported (bs ++ cs) = reported bs ++ reported cs :=
  List.filterMap_append

/-- The guard holds no handler twice; reports are made for handlers of the guard, in its order; and
every failed attempt that waits has a report. -/
structure Frugal (L : Ledger) : Prop where
  nodup : L.guard.Nodup
  sublist : (reported L.bookings).Sublist L.guard
  waiting : L.waiting.length ≤ (reported L.bookings).length

section Frugality

variable {g g' : List Nat} {bs cs : List Booking} {ws ws' : List FailedAttempt}

/-- Bookings without a report keep what holds of the reports, if no attempt begins to wait. -/
theorem Frugal.append (h : Frugal ⟨g, bs, ws⟩) (hnodup : g'.Nodup) (hsublist : g.Sublist g')
    (hcs : reported cs = []) (hwaiting : ws'.length ≤ ws.length) :
    Frugal ⟨g', bs ++ cs, ws'⟩ := by
  have hsame : reported (bs ++ cs) = reported bs := by
    rw [reported_append, hcs, List.append_nil]
  constructor
  · exact hnodup
  · rw [hsame]
    exact h.sublist.trans hsublist
  · rw [hsame]
    exact Nat.le_trans hwaiting h.waiting

theorem Frugal.nodup_enter (h : Frugal ⟨g, bs, ws⟩) {i : Nat} (hi : i ∉ g) : (g ++ [i]).Nodup := by
  rw [List.nodup_append]
  refine ⟨h.nodup, by simp, ?_⟩
  rintro a ha b hb rfl
  exact hi (List.mem_singleton.1 hb ▸ ha)

end Frugality

theorem Step.frugal {L L' : Ledger} (h : Step app m L L') (hL : L.Frugal) : L'.Frugal := by
  cases h with
  | silent a hfailed =>
    exact hL.append hL.nodup (List.Sublist.refl _) rfl (Nat.le_refl _)
  | undeliverable a hfailed hmechanical =>
    exact hL.append (hL.nodup_enter hfailed) (List.sublist_append_left _ _) rfl (Nat.le_refl _)
  | unreported a hfailed hmechanical hreport =>
    exact hL.append (hL.nodup_enter hfailed) (List.sublist_append_left _ _) rfl (Nat.le_refl _)
  | report a hfailed hmechanical hreport =>
    -- The handler comes into the guard and among the reports at the same time.
    refine ⟨hL.nodup_enter hfailed, ?_, ?_⟩
    · rw [reported_append]
      exact hL.sublist.append (List.Sublist.refl [a.handler.id])
    · rw [reported_append, List.length_append]
      exact Nat.succ_le_succ hL.waiting
  | settled a => exact hL.append hL.nodup (List.Sublist.refl _) rfl (Nat.le_succ _)
  | lost a hcontain => exact ⟨hL.nodup, hL.sublist, Nat.le_of_succ_le hL.waiting⟩

theorem Run.frugal {L : Ledger} (h : Run app m L) : L.Frugal := by
  induction h with
  | empty => exact ⟨List.nodup_nil, List.nil_sublist _, Nat.le_refl _⟩
  | step _ hstep ih => exact hstep.frugal ih

end Ledger

end EventDispatch
