import EventDispatch.Proofs.Failure.Restraint
import EventDispatch.Proofs.Machine.Ending

/-!
# Fires of restrained handlers end

When handlers are restrained, every outermost fire ends (`OutermostFire.exists_endsAt`). Report
handlers may fail and may fire the failing event again, so nothing in the program gets smaller on
the way; what gets smaller is the number of handlers that have not failed yet. Every report enters
one of them into the guard, and between two reports there are only finitely many fires.
-/

set_option autoImplicit false

namespace EventDispatch

variable {ν : Type} {app : Application ν}

/-! ## The guard and the registry -/

/-- The handlers that have failed in the fires under way in a scope. -/
def State.failed (sc : Scope) (s : State ν) : List Nat := (s.world.guard? sc).getD []

/-- The handlers that are registered with a manager. -/
def World.handlersOf (w : World ν) (m : ManagerId) : List BoundHandler :=
  (w.manager m).registry.flatMap Member.bound

theorem Ledger.Step.guard_length_le {m : ManagerId} {L L' : Ledger} (h : Step app m L L') :
    L.guard.length ≤ L'.guard.length := by
  cases h <;> simp

namespace OutermostFire

variable {s : State ν} {sc : Scope} {event : Event}

/-- Handlers that have failed stay in the guard as long as the fire lasts. -/
theorem failed_length_mono (h : OutermostFire s sc event) (hs : Reachable app s) {t u : State ν}
    (ht : During app s t) (hu : During app t u) :
    (t.failed sc).length ≤ (u.failed sc).length := by
  induction hu with
  | refl => exact Nat.le_refl _
  | @step u hu hlength ih =>
    have hsu := ht.trans hu
    have hsu' := ht.trans (hu.step hlength)
    refine Nat.le_trans ih ?_
    rcases (u.move_step app).ledger (hsu.reachable hs).nested (h.isSome_guard? hs hsu)
      (h.isSome_guard? hs hsu') with heq | hstep
    · exact Nat.le_of_eq (congrArg (fun L : Ledger => L.guard.length) heq.symm)
    · exact hstep.guard_length_le

/-- There are no more handlers in the guard than in the registry. -/
theorem failed_length_le (h : OutermostFire s sc event) (hs : Reachable app s)
    (hrestrained : ∀ t, During app s t → t.restrained app sc = true) {t : State ν}
    (ht : During app s t) :
    (t.failed sc).length ≤ (s.world.handlersOf sc.manager).length := by
  obtain ⟨K, hK, bs, hbs, hrun⟩ := h.run hs ht
  obtain ⟨K', hK', hconfined⟩ := h.confined hs hrestrained ht
  have hsubset : t.failed sc ⊆ (s.world.handlersOf sc.manager).map (·.id) := by
    intro i hi
    obtain ⟨b, ⟨member, hmember, hb⟩, rfl⟩ := hconfined.world.guard i hi
    exact List.mem_map.2 ⟨b, List.mem_flatMap.2 ⟨member, hmember, hb⟩, rfl⟩
  have hle := List.Nodup.length_le_of_subset hrun.frugal.nodup hsubset
  rwa [List.length_map] at hle

end OutermostFire

/-! ## Termination -/

/-- Whether all but at most `k` of `n` handlers have failed in a scope. -/
def State.Spares (sc : Scope) (n k : Nat) (t : State ν) : Prop := n ≤ (t.failed sc).length + k

section Termination

variable {s : State ν} {sc : Scope} {event : Event} {n k : Nat}

variable (app s sc n k) in
/-- Whether every dispatch of an event of a kind ends that begins during the fire of `s` when at
most `k` handlers have not failed yet. -/
def DispatchesEnd (kind : Event → Prop) : Prop :=
  ∀ t origin e, During app s t → t.control = .dispatch sc origin e → kind e → t.Spares sc n k →
    t.Ends app

section Fire

variable (hs : Reachable app s) (hfire : OutermostFire s sc event)
  (hrestrained : ∀ t, During app s t → t.restrained app sc = true)

include hs hfire in
theorem State.Spares.mono {t u : State ν} (h : t.Spares sc n k) (ht : During app s t)
    (hu : During app t u) : u.Spares sc n k :=
  Nat.le_trans h (Nat.add_le_add_right (hfire.failed_length_mono hs ht hu) k)

include hs hfire

/-- An operation that a handler asks for ends if the dispatch of a fire does. -/
theorem ends_of_perform
    (hdispatch : DispatchesEnd app s sc n k fun e => app.reports sc.manager e = false)
    {t : State ν} (ht : During app s t) {operation : Operation}
    (hcontrol : t.control = .perform sc operation)
    (haside : operation.isAside app sc.manager = true) (hspares : t.Spares sc n k) :
    t.Ends app := by
  obtain ⟨w, control, K⟩ := t
  subst hcontrol
  cases operation with
  | fire e =>
    have he := Operation.reports_of_isAside haside
    apply State.Ends.of_push rfl
    · intro hstep
      exact hdispatch _ .request e (ht.trans hstep) rfl he (hspares.mono hs hfire ht hstep)
    · intro u hu hstack houtcome
      have hpop := ((ht.trans hu).reachable hs).nested.step_of_firing houtcome hstack
      exact ⟨hpop.1, fun _ => .of_outcome hpop.2⟩
  | isRegistered o => exact State.Ends.of_step rfl fun _ => .of_outcome rfl
  | status => exact State.Ends.of_step rfl fun _ => .of_outcome rfl
  | add | addComponent | remove | removeComponent => cases haside

/-- A command ends if the dispatch of a fire does. -/
theorem ends_of_issue
    (hdispatch : DispatchesEnd app s sc n k fun e => app.reports sc.manager e = false)
    {t : State ν} (ht : During app s t) {command : Command}
    (hcontrol : t.control = .issue sc.thread command) (haside : command.isAside app sc = true)
    (hspares : t.Spares sc n k) : t.Ends app := by
  obtain ⟨w, control, K⟩ := t
  subst hcontrol
  obtain ⟨hmode, hmanager, haside⟩ := Command.isAside_iff.1 haside
  obtain ⟨m, operation, mode⟩ := command
  subst hmanager
  cases mode with
  | spawned => exact absurd rfl hmode
  | direct =>
    apply State.Ends.of_step rfl
    intro hstep
    exact ends_of_perform hs hfire hdispatch (ht.trans hstep) rfl haside
      (hspares.mono hs hfire ht hstep)
  | caught =>
    apply State.Ends.of_push rfl
    · intro hstep
      exact ends_of_perform hs hfire hdispatch (ht.trans hstep) rfl haside
        (hspares.mono hs hfire ht hstep)
    · intro u hu hstack houtcome
      have hpop := ((ht.trans hu).reachable hs).nested.step_of_contained houtcome hstack
      exact ⟨hpop.1, fun _ => .of_outcome hpop.2⟩

include hrestrained

/-- A handler ends, if the fires that it asks for on a failure report do. -/
theorem ends_of_run {delivery : Delivery}
    (hdispatch : app.reports sc.manager delivery.event = true →
      DispatchesEnd app s sc n k fun e => app.reports sc.manager e = false)
    (program : Program ν) {t : State ν} (ht : During app s t)
    (hcontrol : t.control = .run sc program) {b : BoundHandler} {rest : List BoundHandler}
    {K : List (Frame ν)} (hstack : t.stack = .attempt sc delivery b rest :: K)
    (hspares : t.Spares sc n k) : t.Ends app := by
  -- The induction is on the program: what a handler does next is a smaller program.
  induction program generalizing t with
  | finish result =>
    obtain ⟨w, control, K⟩ := t
    subst hcontrol
    exact State.Ends.of_step rfl fun _ => .of_outcome rfl
  | panic payload =>
    obtain ⟨w, control, K⟩ := t
    subst hcontrol
    exact State.Ends.of_step rfl fun _ => .of_outcome rfl
  | note entry next ih =>
    obtain ⟨w, control, K⟩ := t
    subst hcontrol
    exact State.Ends.of_step rfl fun hstep =>
      ih (ht.trans hstep) rfl hstack (hspares.mono hs hfire ht hstep)
  | «recall» next ih =>
    obtain ⟨w, control, K⟩ := t
    subst hcontrol
    exact State.Ends.of_step rfl fun hstep =>
      ih _ (ht.trans hstep) rfl hstack (hspares.mono hs hfire ht hstep)
  | perform command next ih =>
    have hasked := hrestrained t ht
    obtain ⟨w, control, stack⟩ := t
    subst hcontrol hstack
    simp only [State.restrained, Bool.and_eq_true] at hasked
    apply State.Ends.of_push rfl
    · intro hstep
      exact ends_of_issue hs hfire (hdispatch hasked.1) (ht.trans hstep) rfl hasked.2
        (hspares.mono hs hfire ht hstep)
    · -- The reply decides how the program goes on.
      intro u hu hstack houtcome
      have hpop := ((ht.trans hu).reachable hs).nested.step_of_body houtcome hstack
      refine ⟨hpop.1, ?_⟩
      intro hstep
      rcases hpop.2 with hout | ⟨reply, hrun⟩
      · exact .of_outcome hout
      · exact ih reply (ht.trans hstep) hrun hpop.1 (hspares.mono hs hfire ht hstep)

omit hrestrained in
/-- Dealing with a failed attempt ends, if delivering to the handlers that are left does, and so do
the dispatches that begin when one handler more has failed. -/
theorem ends_of_fail {delivery : Delivery} {rest : List BoundHandler}
    (hreport : DispatchesEnd app s sc (n + 1) k fun _ => True)
    (hdeliver : ∀ t, During app s t → t.control = .deliver sc delivery rest → t.Spares sc n k →
      t.Ends app)
    {t : State ν} (ht : During app s t) {b : BoundHandler} {failure : Failure}
    (hcontrol : t.control = .fail sc delivery b failure rest) (hspares : t.Spares sc n k) :
    t.Ends app := by
  obtain ⟨w, control, K⟩ := t
  subst hcontrol
  have hmove := State.move_step app ⟨w, .fail sc delivery b failure rest, K⟩
  have hnext (hstack : (State.step app ⟨w, .fail sc delivery b failure rest, K⟩).stack = K)
      (hstep : (State.step app ⟨w, .fail sc delivery b failure rest, K⟩).control
        = .deliver sc delivery rest) :
      State.Ends app ⟨w, .fail sc delivery b failure rest, K⟩ :=
    .of_step hstack fun hd => hdeliver _ (ht.trans hd) hstep (hspares.mono hs hfire ht hd)
  generalize hu : State.step app ⟨w, .fail sc delivery b failure rest, K⟩ = u at hmove hnext
  cases hmove with
  | silent => exact hnext rfl rfl
  | undeliverable => exact hnext rfl rfl
  | unreported => exact hnext rfl rfl
  | report =>
    apply State.Ends.of_push (by rw [hu])
    · intro hd
      rw [hu] at hd ⊢
      refine hreport _ _ _ (ht.trans hd) rfl trivial ?_
      -- The handler has just been entered into the guard.
      have hlength : n ≤ (State.failed sc ⟨w, .fail sc delivery b failure rest, K⟩).length + k :=
        hspares
      simp only [State.Spares, State.failed, World.guard?_addFailure, World.guard?_record, if_true,
        Option.getD_some, List.length_append, List.length_singleton] at hlength ⊢
      omega
    · intro u hu hstack houtcome
      have hpop := ((ht.trans hu).reachable hs).nested.step_of_reporting houtcome hstack
      refine ⟨hpop.1, ?_⟩
      intro hd
      rcases hpop.2 with hout | hrest
      · exact .of_outcome hout
      · exact hdeliver _ (ht.trans hd) hrest (hspares.mono hs hfire ht hd)
  | rest _ _ _ hended => cases hended

/-- A delivery ends, if the fires that its handlers ask for on a failure report do, and so do the
dispatches that begin when one handler more has failed. -/
theorem ends_of_deliver {delivery : Delivery}
    (hdispatch : app.reports sc.manager delivery.event = true →
      DispatchesEnd app s sc n k fun e => app.reports sc.manager e = false)
    (hreport : DispatchesEnd app s sc (n + 1) k fun _ => True)
    (rest : List BoundHandler) {t : State ν} (ht : During app s t)
    (hcontrol : t.control = .deliver sc delivery rest) (hspares : t.Spares sc n k) :
    t.Ends app := by
  induction rest generalizing t with
  | nil =>
    obtain ⟨w, control, K⟩ := t
    subst hcontrol
    exact State.Ends.of_step rfl fun _ => .of_outcome rfl
  | cons b rest ih =>
    obtain ⟨w, control, K⟩ := t
    subst hcontrol
    have hfail {u : State ν} (hu : During app s u) {failure : Failure}
        (hcontrol : u.control = .fail sc delivery b failure rest) (hspares : u.Spares sc n k) :
        u.Ends app :=
      ends_of_fail hs hfire hreport (fun _ hv hc hsp => ih hv hc hsp) hu hcontrol hspares
    cases hpart : delivery.event.part? (app.maxDepth sc.manager) b.eventType with
    | none =>
      have hstep : State.step app ⟨w, .deliver sc delivery (b :: rest), K⟩
          = ⟨w.record sc (.attempted delivery b), .fail sc delivery b (.eventMismatch
              (app.names.eventType b.eventType) (app.names.eventType delivery.event.type)) rest,
            K⟩ := by
        simp [State.step, State.deliver, hpart]
      apply State.Ends.of_step (by rw [hstep])
      intro hd
      rw [hstep] at hd ⊢
      exact hfail (ht.trans hd) rfl (hspares.mono hs hfire ht hd)
    | some part =>
      have hstep : State.step app ⟨w, .deliver sc delivery (b :: rest), K⟩
          = ⟨(w.record sc (.attempted delivery b)).record sc (.called delivery b part),
            .run sc (app.program sc.manager b.observer b.binding part),
            .attempt sc delivery b rest :: K⟩ := by
        simp [State.step, State.deliver, hpart]
      apply State.Ends.of_push (by rw [hstep])
      · intro hd
        rw [hstep] at hd ⊢
        exact ends_of_run hs hfire hrestrained hdispatch _ (ht.trans hd) rfl rfl
          (hspares.mono hs hfire ht hd)
      · intro u hu hstack houtcome
        have hpop := ((ht.trans hu).reachable hs).nested.step_of_attempt houtcome hstack
        refine ⟨hpop.1, ?_⟩
        intro hd
        have hspares' := hspares.mono hs hfire ht hd
        rcases hpop.2 with hout | hnext | ⟨failure, hnext⟩
        · exact .of_outcome hout
        · exact ih (ht.trans hd) hnext hspares'
        · exact hfail (ht.trans hd) hnext hspares'

/-- A dispatch ends, if its delivery does. -/
theorem ends_of_dispatch {origin : Origin} {e : Event}
    (hdispatch : app.reports sc.manager e = true →
      DispatchesEnd app s sc n k fun e => app.reports sc.manager e = false)
    (hreport : DispatchesEnd app s sc (n + 1) k fun _ => True) {t : State ν}
    (ht : During app s t) (hcontrol : t.control = .dispatch sc origin e)
    (hspares : t.Spares sc n k) : t.Ends app := by
  have hmove := (t.move_step app).of_dispatch hcontrol
  apply State.Ends.of_step (by rw [hmove])
  intro hd
  have hspares' := hspares.mono hs hfire ht hd
  rw [hmove] at hd hspares' ⊢
  exact ends_of_deliver hs hfire hrestrained hdispatch hreport _ (ht.trans hd) rfl hspares'

/-- If dispatches end when one handler more has failed, they end before. A handler's fires are
dispatches of events that are no failure reports, so those come first. -/
theorem dispatchesEnd_of_report (hreport : DispatchesEnd app s sc (n + 1) k fun _ => True) :
    DispatchesEnd app s sc n k fun _ => True := by
  have hother : DispatchesEnd app s sc n k fun e => app.reports sc.manager e = false := by
    intro t origin e ht hcontrol he hspares
    -- A handler asks for fires only when it is given a failure report, and this event is none.
    have hnone (hreports : app.reports sc.manager e = true) :
        DispatchesEnd app s sc n k fun e => app.reports sc.manager e = false :=
      absurd (hreports.symm.trans he) (by decide)
    exact ends_of_dispatch hs hfire hrestrained hnone hreport ht hcontrol hspares
  intro t origin e ht hcontrol _ hspares
  exact ends_of_dispatch hs hfire hrestrained (fun _ => hother) hreport ht hcontrol hspares

/-- All dispatches end in which at most `k` handlers have not failed yet. -/
theorem dispatchesEnd (k : Nat) :
    DispatchesEnd app s sc (s.world.handlersOf sc.manager).length k fun _ => True := by
  -- The induction is on how many handlers may still fail for the first time.
  induction k with
  | zero =>
    apply dispatchesEnd_of_report hs hfire hrestrained
    intro t origin e ht _ _ hspares
    have hle := hfire.failed_length_le hs hrestrained ht
    have hlt : (s.world.handlersOf sc.manager).length + 1 ≤ (t.failed sc).length + 0 := hspares
    omega
  | succ k ih =>
    apply dispatchesEnd_of_report hs hfire hrestrained
    intro t origin e ht hcontrol _ hspares
    apply ih t origin e ht hcontrol trivial
    have hle : (s.world.handlersOf sc.manager).length + 1 ≤ (t.failed sc).length + (k + 1) :=
      hspares
    exact Nat.le_of_succ_le_succ hle

/-- An outermost fire of restrained handlers ends. -/
theorem OutermostFire.exists_endsAt : ∃ t, EndsAt app s t := by
  obtain ⟨origin, hcontrol⟩ := hfire.control
  obtain ⟨outermost, reply, K, hstack, -⟩ := hfire.stack
  have hends := dispatchesEnd hs hfire hrestrained (s.world.handlersOf sc.manager).length s origin
    event .refl hcontrol trivial (Nat.le_add_left _ _)
  exact hends.exists_endsAt hs hstack

end Fire

end Termination

end EventDispatch
