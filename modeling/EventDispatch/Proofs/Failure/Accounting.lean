import EventDispatch.Proofs.Failure.Guard
import EventDispatch.Proofs.Failure.Ledger

/-!
# The machine keeps the ledger

What the machine does about failures in a scope that has a guard are steps of the scope's ledger
(`Move.ledger`), so the states of an outermost fire show ledgers that come of an empty one
(`OutermostFire.run`).
-/

set_option autoImplicit false

namespace EventDispatch

variable {ν : Type} {app : Application ν}

/-! ## The ledger of a state -/

/-- What an entry about a fact books. -/
def Fact.booking? : Fact ν → Option Booking
  | .failed delivery b failure => some (.failed ⟨b, delivery.event, failure⟩)
  | .undeliverable _ b _ => some (.warned b)
  | .handlerError _ b _ => some (.erred b)
  | .dispatched (.report i) delivery => some (.reported i delivery.event)
  | _ => none

/-- What an entry of the journal books in a scope. -/
def Entry.booking? (sc : Scope) (entry : Entry ν) : Option Booking :=
  if entry.scope = sc then entry.fact.booking? else none

/-- What a control is about to book in a scope: the dispatch of a report. -/
def Control.booking? (sc : Scope) : Control ν → Option Booking
  | .dispatch scope (.report i) event => if scope = sc then some (.reported i event) else none
  | _ => none

/-- The failed attempt of a scope that waits for its report. -/
def Frame.waiting? (sc : Scope) : Frame ν → Option FailedAttempt
  | .reporting scope delivery b failure _ =>
    if scope = sc then some ⟨b, delivery.event, failure⟩ else none
  | _ => none

/-- The failed attempts of a scope that wait on a stack, innermost first. -/
def waitingOf (sc : Scope) (K : List (Frame ν)) : List FailedAttempt :=
  K.filterMap (Frame.waiting? sc)

/-- What has been booked in a scope, oldest first. -/
def State.bookings (sc : Scope) (s : State ν) : List Booking :=
  s.world.read (Entry.booking? sc) ++ (s.control.booking? sc).toList

/-- The ledger of a scope. -/
def State.ledger (sc : Scope) (s : State ν) : Ledger where
  guard := (s.world.guard? sc).getD []
  bookings := s.bookings sc
  waiting := waitingOf sc s.stack

theorem skipsRoutine_booking? (sc : Scope) :
    World.SkipsRoutine (Entry.booking? sc : Entry ν → Option Booking) := by
  intro scope fact h
  unfold Entry.booking?
  split
  · cases fact with
    | dispatched | failed | undeliverable | handlerError => exact Bool.noConfusion h
    | _ => rfl
  · rfl

theorem booking?_eq_none_of_isOutcome {control : Control ν} (h : control.isOutcome = true)
    (sc : Scope) : control.booking? sc = none := by
  cases control with
  | dispatch => exact Bool.noConfusion h
  | _ => rfl

theorem World.hasFailed_iff (w : World ν) (sc : Scope) (i : Nat) :
    w.hasFailed sc i = true ↔ i ∈ (w.guard? sc).getD [] := by
  simp [hasFailed]

/-! ## One step -/

section Failures

variable {w : World ν} {K : List (Frame ν)} {scope : Scope} {delivery : Delivery}
  {b : BoundHandler} {failure : Failure} {rest : List BoundHandler} {t : State ν}

/-- Dealing with a failed attempt is one step of the ledger of its scope. -/
theorem Move.ledger_of_fail (h : Move app ⟨w, .fail scope delivery b failure rest, K⟩ t) :
    Ledger.Step app scope.manager (State.ledger scope ⟨w, .fail scope delivery b failure rest, K⟩)
      (t.ledger scope) := by
  have hbefore : State.ledger scope ⟨w, .fail scope delivery b failure rest, K⟩
      = ⟨(w.guard? scope).getD [], w.read (Entry.booking? scope), waitingOf scope K⟩ := by
    simp [State.ledger, State.bookings, Control.booking?]
  have hnot (hfailed : w.hasFailed scope b.id = false) : b.id ∉ (w.guard? scope).getD [] := by
    rw [← World.hasFailed_iff, hfailed]
    exact Bool.false_ne_true
  rw [hbefore]
  cases h with
  | silent w scope delivery b failure rest K hfailed =>
    have hstep : Ledger.Step app scope.manager
        ⟨(w.guard? scope).getD [], w.read (Entry.booking? scope), waitingOf scope K⟩ _ :=
      .silent ⟨b, delivery.event, failure⟩ ((w.hasFailed_iff scope b.id).1 hfailed)
    simpa [State.ledger, State.bookings, Entry.booking?, Fact.booking?, Control.booking?]
      using hstep
  | undeliverable w scope delivery b failure rest K hfailed hmechanical =>
    have hstep : Ledger.Step app scope.manager
        ⟨(w.guard? scope).getD [], w.read (Entry.booking? scope), waitingOf scope K⟩ _ :=
      .undeliverable ⟨b, delivery.event, failure⟩ (hnot hfailed) hmechanical
    simpa [State.ledger, State.bookings, Entry.booking?, Fact.booking?, Control.booking?]
      using hstep
  | unreported w scope delivery b failure rest K hfailed hmechanical hreport =>
    have hstep : Ledger.Step app scope.manager
        ⟨(w.guard? scope).getD [], w.read (Entry.booking? scope), waitingOf scope K⟩ _ :=
      .unreported ⟨b, delivery.event, failure⟩ (hnot hfailed) hmechanical hreport
    simpa [State.ledger, State.bookings, Entry.booking?, Fact.booking?, Control.booking?]
      using hstep
  | report w scope delivery b failure rest K hfailed hmechanical hreport =>
    have hstep : Ledger.Step app scope.manager
        ⟨(w.guard? scope).getD [], w.read (Entry.booking? scope), waitingOf scope K⟩ _ :=
      .report ⟨b, delivery.event, failure⟩ (hnot hfailed) hmechanical hreport
    simpa [State.ledger, State.bookings, Entry.booking?, Fact.booking?, Control.booking?,
      waitingOf, Frame.waiting?, FailedAttempt.report] using hstep
  | rest _ _ _ hended => cases hended

/-- Dealing with a failed attempt does not touch the ledgers of other scopes. -/
theorem Move.ledger_of_fail_of_ne (h : Move app ⟨w, .fail scope delivery b failure rest, K⟩ t)
    {sc : Scope} (hsc : sc ≠ scope) :
    t.ledger sc = State.ledger sc ⟨w, .fail scope delivery b failure rest, K⟩ := by
  cases h with
  | silent =>
    simp [State.ledger, State.bookings, Entry.booking?, Control.booking?, Ne.symm hsc]
  | undeliverable =>
    simp [State.ledger, State.bookings, Entry.booking?, Control.booking?, Ne.symm hsc,
      World.guard?_addFailure, hsc]
  | unreported =>
    simp [State.ledger, State.bookings, Entry.booking?, Control.booking?, Ne.symm hsc,
      World.guard?_addFailure, hsc]
  | report =>
    simp [State.ledger, State.bookings, Entry.booking?, Control.booking?, Ne.symm hsc,
      World.guard?_addFailure, hsc, waitingOf, Frame.waiting?]
  | rest _ _ _ hended => cases hended

theorem Move.ledger_cases_of_fail (h : Move app ⟨w, .fail scope delivery b failure rest, K⟩ t)
    (sc : Scope) :
    t.ledger sc = State.ledger sc ⟨w, .fail scope delivery b failure rest, K⟩ ∨
      Ledger.Step app sc.manager (State.ledger sc ⟨w, .fail scope delivery b failure rest, K⟩)
        (t.ledger sc) := by
  by_cases hsc : sc = scope
  · subst hsc
    exact .inr h.ledger_of_fail
  · exact .inl (h.ledger_of_fail_of_ne hsc)

end Failures

/-- Opening a fire changes no ledger but that of a scope without a guard. -/
theorem State.ledger_opened {w : World ν} {scope sc : Scope} {control control' : Control ν}
    {K : List (Frame ν)} {outermost : Bool} {reply : Reply} (hw : (w.guard? sc).isSome = true)
    (hcontrol : control.booking? sc = none) (hcontrol' : control'.booking? sc = none) :
    State.ledger sc ⟨w.enter scope, control', .firing scope outermost reply :: K⟩
      = State.ledger sc ⟨w, control, K⟩ := by
  obtain ⟨g, hg⟩ := Option.isSome_iff_exists.1 hw
  simp [State.ledger, State.bookings, hcontrol, hcontrol', waitingOf, Frame.waiting?,
    List.filterMap_cons, w.guard?_enter_of_some sc hg, hg]

/-- Closing a fire changes no ledger but that of a scope that loses its guard. -/
theorem State.ledger_closed {w : World ν} {scope sc : Scope} {control control' : Control ν}
    {K : List (Frame ν)} {outermost : Bool} {reply : Reply}
    (hw : ((w.leave scope outermost).guard? sc).isSome = true)
    (hcontrol : control.booking? sc = none) (hcontrol' : control'.booking? sc = none) :
    State.ledger sc ⟨w.leave scope outermost, control', K⟩
      = State.ledger sc ⟨w, control, .firing scope outermost reply :: K⟩ := by
  -- The scope still has a guard, so the fire that ends is not the outermost one of the scope.
  have hguard : (w.leave scope outermost).guard? sc = w.guard? sc := by
    rw [World.guard?_leave] at hw ⊢
    split
    · rename_i hsc
      cases outermost with
      | true => simp [hsc] at hw
      | false => rfl
    · rfl
  simp [State.ledger, State.bookings, hcontrol, hcontrol', waitingOf, Frame.waiting?,
    List.filterMap_cons, hguard]

/-- What a step does to the ledger of a scope that keeps its guard is a step of the ledger. -/
theorem Move.ledger {s t : State ν} (h : Move app s t) (hnested : Nested app s) {sc : Scope}
    (hs : (s.world.guard? sc).isSome = true) (ht : (t.world.guard? sc).isSome = true) :
    t.ledger sc = s.ledger sc ∨ Ledger.Step app sc.manager (s.ledger sc) (t.ledger sc) := by
  have hf : World.SkipsRoutine (Entry.booking? sc : Entry ν → Option Booking) :=
    skipsRoutine_booking? sc
  cases h with
  | kept w scope operation k fs reply K hop hfs | stall w scope operation k fs K hop hfs =>
    left
    simp [State.ledger, State.bookings, World.read_chronicle _ _ hf hfs, Control.booking?]
  | joined w scope operation o type fs K hop htype hcheck hnew hfs =>
    left
    have hopened : State.ledger sc ⟨(w.join scope o type fs).enter scope,
          .dispatch scope .membership (.observerAdded o type.name),
          .firing scope (w.guard? scope).isNone (.flag true) :: K⟩
        = State.ledger sc ⟨w.join scope o type fs, .perform scope operation, K⟩ :=
      State.ledger_opened hs rfl rfl
    rw [hopened]
    simp [State.ledger, State.bookings, World.read_join _ _ hf hfs, Control.booking?]
  | parted w scope operation o member fs K hop hmember hfs =>
    left
    have hopened : State.ledger sc ⟨(w.part scope o fs).enter scope,
          .dispatch scope .membership (.observerRemoved o member.observerType),
          .firing scope (w.guard? scope).isNone (.flag true) :: K⟩
        = State.ledger sc ⟨w.part scope o fs, .perform scope operation, K⟩ :=
      State.ledger_opened hs rfl rfl
    rw [hopened]
    simp [State.ledger, State.bookings, World.read_part _ _ hf hfs, Control.booking?]
  | fire w scope event K => exact .inl (State.ledger_opened hs rfl rfl)
  | dispatch w scope origin event K =>
    left
    -- What the control was about to book is what the journal books now.
    have hread := w.read_launch scope hf app origin event
    have hbooked : (⟨scope, .dispatched origin ⟨w.nextDispatch, event⟩⟩ : Entry ν).booking? sc
        = (Control.dispatch scope origin event : Control ν).booking? sc := by
      cases origin <;> simp [Entry.booking?, Fact.booking?, Control.booking?]
    rw [hbooked] at hread
    simp only [State.ledger, State.bookings, hread, World.guard?_launch]
    exact congrArg (Ledger.mk _ · _) (List.append_nil _)
  | silent w scope delivery b failure rest K hfailed =>
    exact (Move.silent w scope delivery b failure rest K hfailed).ledger_cases_of_fail sc
  | undeliverable w scope delivery b failure rest K hfailed hmechanical =>
    exact (Move.undeliverable w scope delivery b failure rest K hfailed
      hmechanical).ledger_cases_of_fail sc
  | unreported w scope delivery b failure rest K hfailed hmechanical hreport =>
    exact (Move.unreported w scope delivery b failure rest K hfailed hmechanical
      hreport).ledger_cases_of_fail sc
  | report w scope delivery b failure rest K hfailed hmechanical hreport =>
    exact (Move.report w scope delivery b failure rest K hfailed hmechanical
      hreport).ledger_cases_of_fail sc
  | close w scope outermost reply K => exact .inl (State.ledger_closed ht rfl rfl)
  | abandon w payload scope outermost reply K => exact .inl (State.ledger_closed ht rfl rfl)
  | reported w scope delivery b failure rest K =>
    by_cases hsc : scope = sc
    · subst hsc
      right
      have hstep : Ledger.Step app scope.manager ⟨(w.guard? scope).getD [],
            w.read (Entry.booking? scope), ⟨b, delivery.event, failure⟩ :: waitingOf scope K⟩ _ :=
        .settled ⟨b, delivery.event, failure⟩
      simpa [State.ledger, State.bookings, Entry.booking?, Fact.booking?, Control.booking?,
        waitingOf, Frame.waiting?] using hstep
    · left
      simp [State.ledger, State.bookings, Entry.booking?, Control.booking?, waitingOf,
        Frame.waiting?, hsc]
  | abandonReport w payload scope delivery b failure rest K =>
    by_cases hsc : scope = sc
    · subst hsc
      right
      have hstep : Ledger.Step app scope.manager ⟨(w.guard? scope).getD [],
            w.read (Entry.booking? scope), ⟨b, delivery.event, failure⟩ :: waitingOf scope K⟩ _ :=
        .lost ⟨b, delivery.event, failure⟩ (hnested.containPanics_of_reporting rfl rfl)
      simpa [State.ledger, State.bookings, Control.booking?, waitingOf, Frame.waiting?] using hstep
    · left
      simp [State.ledger, State.bookings, Control.booking?, waitingOf, Frame.waiting?, hsc]
  | spawned => exact .inl rfl
  | rest => exact .inl rfl
  | _ =>
    left
    simp [State.ledger, State.bookings, Control.booking?, Entry.booking?, Fact.booking?, waitingOf,
      Frame.waiting?, List.filterMap_cons]

/-! ## Outermost fires -/

namespace OutermostFire

variable {s : State ν} {sc : Scope} {event : Event}

/-- An outermost fire is not about to book anything. -/
theorem bookings_eq (h : OutermostFire s sc event) (hs : Reachable app s) :
    s.bookings sc = s.world.read (Entry.booking? sc) := by
  obtain ⟨origin, hcontrol⟩ := h.control
  obtain ⟨outermost, reply, K, hstack, -⟩ := h.stack
  have horigin := (hs.opens hcontrol hstack).2
  have hnone : s.control.booking? sc = none := by
    rw [hcontrol]
    cases origin with
    | report i => exact absurd rfl (horigin i)
    | _ => rfl
  rw [State.bookings, hnone]
  exact List.append_nil _

/-- As long as an outermost fire lasts, what it has booked and what waits in it come of an empty
ledger. -/
theorem run (h : OutermostFire s sc event) (hs : Reachable app s) {t : State ν}
    (ht : During app s t) :
    ∃ K, t.stack = K ++ s.stack ∧ ∃ bs, t.bookings sc = s.bookings sc ++ bs ∧
      Ledger.Run app sc.manager ⟨(t.world.guard? sc).getD [], bs, waitingOf sc K⟩ := by
  apply ht.induction (P := fun K t => ∃ bs, t.bookings sc = s.bookings sc ++ bs ∧
    Ledger.Run app sc.manager ⟨(t.world.guard? sc).getD [], bs, waitingOf sc K⟩)
  · refine ⟨[], (List.append_nil _).symm, ?_⟩
    rw [h.guard?_eq hs]
    exact .empty
  · rintro t t' K K' hd hd' hK hK' hmove ⟨bs, hbs, hrun⟩
    have hwaiting : waitingOf sc t.stack = waitingOf sc K ++ waitingOf sc s.stack := by
      rw [hK]
      exact List.filterMap_append
    have hwaiting' : waitingOf sc t'.stack = waitingOf sc K' ++ waitingOf sc s.stack := by
      rw [hK']
      exact List.filterMap_append
    rcases hmove.ledger (hd.reachable hs).nested (h.isSome_guard? hs hd) (h.isSome_guard? hs hd')
      with heq | hstep
    · simp only [State.ledger, hwaiting, hwaiting', Ledger.mk.injEq] at heq
      obtain ⟨hguard, hbookings, hws⟩ := heq
      refine ⟨bs, hbookings.trans hbs, ?_⟩
      rwa [hguard, List.append_cancel_right hws]
    · rw [State.ledger, State.ledger, hwaiting, hwaiting', hbs] at hstep
      obtain ⟨bs', hbs', hstep⟩ := hstep.of_append
      exact ⟨bs', hbs', hrun.step hstep⟩

/-- When an outermost fire ends, what was booked on the way comes of an empty ledger, and nothing
waits. -/
theorem run_since (h : OutermostFire s sc event) (hs : Reachable app s) {t : State ν}
    (ht : EndsAt app s t) :
    Ledger.Run app sc.manager
      ⟨(t.world.guard? sc).getD [], (s.since t).filterMap (Entry.booking? sc), []⟩ := by
  obtain ⟨K, hK, bs, hbs, hrun⟩ := h.run hs ht.1
  have hnil : K = [] := List.append_cancel_right (hK.symm.trans ht.stack_eq)
  rw [State.bookings, booking?_eq_none_of_isOutcome ht.isOutcome, h.bookings_eq hs,
    State.read_since _ ht.1.history_grows] at hbs
  have heq : (s.since t).filterMap (Entry.booking? sc) = bs :=
    List.append_cancel_left ((List.append_nil _).symm.trans hbs)
  rw [heq]
  rwa [hnil] at hrun

end OutermostFire

end EventDispatch
