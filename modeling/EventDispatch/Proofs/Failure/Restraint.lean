import EventDispatch.Proofs.Failure.Accounting
import EventDispatch.Proofs.Registry.Identity

/-!
# Restrained handlers

Handlers are restrained in a fire if they ask for no changes of the registry and for no fires of
failure reports, and ask only the same manager on the same thread, and only while a failure report
is being delivered to them. Then a nested fire stands above a failure report and a report stands
above an event that is none, so fires and reports alternate on the stack (`Within.depth_le`); the
registry stays as it is and only its handlers run, fail and enter the guard
(`OutermostFire.confined`).
-/

set_option autoImplicit false

namespace EventDispatch

variable {ν : Type} {app : Application ν}

/-- Whether an event is a failure report for a manager. -/
abbrev Application.reports (app : Application ν) (m : ManagerId) (event : Event) : Bool :=
  event.isFailureReport app.hierarchy (app.maxDepth m)

/-- Whether an operation fires an event that is no failure report, or only asks for what is known.
-/
def Operation.isAside (app : Application ν) (m : ManagerId) : Operation → Bool
  | .fire event => !app.reports m event
  | .isRegistered _ | .status => true
  | _ => false

/-- Whether a command asks the manager of a scope for such an operation, on the thread of the
scope. -/
def Command.isAside (app : Application ν) (sc : Scope) (command : Command) : Bool :=
  command.mode ≠ .spawned && command.manager = sc.manager &&
    command.operation.isAside app sc.manager

theorem Operation.isMembership_of_isAside {m : ManagerId} {operation : Operation}
    (h : operation.isAside app m = true) : operation.isMembership = false := by
  cases operation with
  | fire | isRegistered | status => rfl
  | _ => cases h

theorem Operation.reports_of_isAside {m : ManagerId} {event : Event}
    (h : (Operation.fire event).isAside app m = true) : app.reports m event = false := by
  simpa [isAside] using h

theorem Command.isAside_iff {sc : Scope} {command : Command} :
    command.isAside app sc = true ↔ command.mode ≠ .spawned ∧ command.manager = sc.manager ∧
      command.operation.isAside app sc.manager = true := by
  simp [isAside, and_assoc]

/-- Whether what a handler asks for in a state, if it asks for anything, is such an operation, and
the event that is being delivered to it is a failure report. -/
def State.restrained (app : Application ν) (sc : Scope) (s : State ν) : Bool :=
  match s.control, s.stack with
  | .run _ (.perform command _), .attempt _ delivery _ _ :: _ =>
    app.reports sc.manager delivery.event && command.isAside app sc
  | _, _ => true

/-! ## Frames of restrained handlers -/

section Within

variable (app) (sc : Scope) (known : BoundHandler → Prop)

/-- Which frames there may be above those of the fire of `sc` when handlers are restrained: all
belong to the scope and to handlers that are known, a fire stands above a failure report, and a
report above an event that is none. -/
inductive Within : Place → List (Frame ν) → Prop
  | base {event : Event} : Within (.dispatch sc event) []
  | contained {K : List (Frame ν)} (hK : Within (.operation sc.thread) K) :
      Within (.operation sc.thread) (.contained :: K)
  | body {delivery : Delivery} {next : Reply → Program ν} {K : List (Frame ν)}
      (hreport : app.reports sc.manager delivery.event = true)
      (hK : Within (.handler sc delivery) K) :
      Within (.operation sc.thread) (.body sc next :: K)
  | firing {event : Event} {outermost : Bool} {reply : Reply} {K : List (Frame ν)}
      (hreport : app.reports sc.manager event = false) (hK : Within (.operation sc.thread) K) :
      Within (.dispatch sc event) (.firing sc outermost reply :: K)
  | reporting {delivery : Delivery} {b : BoundHandler} {failure : Failure}
      {rest : List BoundHandler} {K : List (Frame ν)}
      (hreport : app.reports sc.manager delivery.event = false)
      (hknown : ∀ x ∈ b :: rest, known x) (hK : Within (.dispatch sc delivery.event) K) :
      Within (.dispatch sc (.observerFailed b.observer b.descriptor delivery.event failure))
        (.reporting sc delivery b failure rest :: K)
  | attempt {delivery : Delivery} {b : BoundHandler} {rest : List BoundHandler}
      {K : List (Frame ν)} (hknown : ∀ x ∈ b :: rest, known x)
      (hK : Within (.dispatch sc delivery.event) K) :
      Within (.handler sc delivery) (.attempt sc delivery b rest :: K)

/-- Which controls there may be at a place when handlers are restrained. -/
inductive Control.ConfinedTo : Control ν → Place → Prop
  | run {program delivery} : ConfinedTo (.run sc program) (.handler sc delivery)
  | returned {result delivery} : ConfinedTo (.returned result) (.handler sc delivery)
  | issue {command : Command} (haside : command.isAside app sc = true) :
      ConfinedTo (.issue sc.thread command) (.operation sc.thread)
  | perform {operation : Operation} (haside : operation.isAside app sc.manager = true) :
      ConfinedTo (.perform sc operation) (.operation sc.thread)
  | answered {reply} : ConfinedTo (.answered reply) (.operation sc.thread)
  | dispatch {origin event} : ConfinedTo (.dispatch sc origin event) (.dispatch sc event)
  | deliver {delivery : Delivery} {rest : List BoundHandler} (hknown : ∀ x ∈ rest, known x) :
      ConfinedTo (.deliver sc delivery rest) (.dispatch sc delivery.event)
  | fail {delivery : Delivery} {b : BoundHandler} {failure : Failure} {rest : List BoundHandler}
      (hknown : ∀ x ∈ b :: rest, known x) :
      ConfinedTo (.fail sc delivery b failure rest) (.dispatch sc delivery.event)
  | completed {event} : ConfinedTo .completed (.dispatch sc event)
  | unwinding {payload place} : ConfinedTo (.unwinding payload) place

end Within

/-! ## Nesting of dispatches -/

/-- Whether a frame waits for a dispatch. -/
def Frame.awaitsDispatch : Frame ν → Bool
  | .firing .. | .reporting .. => true
  | _ => false

/-- Whether a frame waits for the dispatch of a report. -/
def Frame.awaitsReport : Frame ν → Bool
  | .reporting .. => true
  | _ => false

/-- How many dispatches are under way above some frames, given the frames above them. -/
def dispatchesIn (K : List (Frame ν)) : Nat := K.countP Frame.awaitsDispatch

/-- How many of these are dispatches of reports. -/
def reportsIn (K : List (Frame ν)) : Nat := K.countP Frame.awaitsReport

@[simp] theorem dispatchesIn_cons (frame : Frame ν) (K : List (Frame ν)) :
    dispatchesIn (frame :: K) = dispatchesIn K + if frame.awaitsDispatch then 1 else 0 :=
  List.countP_cons

@[simp] theorem reportsIn_cons (frame : Frame ν) (K : List (Frame ν)) :
    reportsIn (frame :: K) = reportsIn K + if frame.awaitsReport then 1 else 0 :=
  List.countP_cons

/-- Fires and reports alternate: there is at most one fire more than there are reports, and none
more where a failure report is being delivered. -/
theorem Within.depth_le {sc : Scope} {known : BoundHandler → Prop} {place : Place}
    {K : List (Frame ν)} (h : Within app sc known place K) :
    dispatchesIn K ≤ 2 * reportsIn K + 1 ∧
      (match place with
        | .operation _ => dispatchesIn K ≤ 2 * reportsIn K
        | .dispatch _ event => app.reports sc.manager event = true →
          dispatchesIn K ≤ 2 * reportsIn K
        | .handler _ delivery => app.reports sc.manager delivery.event = true →
          dispatchesIn K ≤ 2 * reportsIn K) := by
  induction h with
  | base => exact ⟨Nat.zero_le _, fun _ => Nat.le_refl _⟩
  | contained hK ih => simpa [Frame.awaitsDispatch, Frame.awaitsReport] using ih
  | body hreport hK ih =>
    have hle := ih.2 hreport
    simp [Frame.awaitsDispatch, Frame.awaitsReport]
    omega
  | firing hreport hK ih =>
    have hle := ih.2
    simp [Frame.awaitsDispatch, Frame.awaitsReport, hreport]
    omega
  | reporting hreport hknown hK ih =>
    have hle := ih.1
    simp [Frame.awaitsDispatch, Frame.awaitsReport]
    omega
  | attempt hknown hK ih => simpa [Frame.awaitsDispatch, Frame.awaitsReport] using ih

theorem Within.reportsIn_eq {sc : Scope} {known : BoundHandler → Prop} {place : Place}
    {K : List (Frame ν)} (h : Within app sc known place K) :
    reportsIn K = (waitingOf sc K).length := by
  induction h with
  | base => rfl
  | reporting hreport hknown hK ih => simp [waitingOf, Frame.waiting?, Frame.awaitsReport, ih]
  | _ => simpa [waitingOf, Frame.waiting?, Frame.awaitsReport, List.filterMap_cons]

/-! ## One step -/

/-- What holds of a world while only restrained handlers have been at work in a scope since the
world `w₀`: the registry is what it was, and its handlers have failed and no others. -/
structure World.Retains (sc : Scope) (w₀ w : World ν) : Prop where
  registry : (w.manager sc.manager).registry = (w₀.manager sc.manager).registry
  guard : ∀ i ∈ (w.guard? sc).getD [], ∃ b, w₀.HasHandler sc.manager b ∧ b.id = i

namespace World.Retains

variable {sc : Scope} {w₀ w : World ν} (h : Retains sc w₀ w)

include h

theorem record (scope : Scope) (fact : Fact ν) : Retains sc w₀ (w.record scope fact) :=
  ⟨h.registry, h.guard⟩

theorem enter (scope : Scope) : Retains sc w₀ (w.enter scope) :=
  ⟨by rw [manager_enter, h.registry], forall_guard_enter h.guard scope⟩

theorem leave (scope : Scope) (outermost : Bool) : Retains sc w₀ (w.leave scope outermost) :=
  ⟨by rw [manager_leave, h.registry], forall_guard_leave h.guard scope outermost⟩

theorem launch (scope : Scope) (origin : Origin) (event : Event) :
    Retains sc w₀ (w.launch app scope origin event) :=
  ⟨by rw [registry_launch, h.registry], by rw [guard?_launch]; exact h.guard⟩

theorem addFailure (scope : Scope) {b : BoundHandler} (hb : w₀.HasHandler sc.manager b) :
    Retains sc w₀ (w.addFailure scope b.id) :=
  ⟨h.registry, forall_guard_addFailure h.guard scope ⟨b, hb, rfl⟩⟩

/-- A plan is resolved to handlers that the registry had all along. -/
theorem hasHandler_of_resolve (hsound : w.Sound app) {t : EventType} :
    ∀ b ∈ (w.resolve app sc t).1.toList, w₀.HasHandler sc.manager b := by
  intro b hb
  rw [hsound.resolve_eq] at hb
  obtain ⟨member, hmember, hb⟩ := ManagerState.mem_of_mem_currentPlan hb
  rw [h.registry] at hmember
  exact ⟨member, hmember, hb⟩

end World.Retains

/-- What holds, in a state with the frames `K` above those of the fire that began in `s`, when
handlers are restrained. -/
structure Confined (app : Application ν) (sc : Scope) (s : State ν) (K : List (Frame ν))
    (t : State ν) : Prop where
  /-- The control stands at a place above frames of restrained handlers. -/
  place : ∃ place, t.control.ConfinedTo app sc (s.world.HasHandler sc.manager) place ∧
    Within app sc (s.world.HasHandler sc.manager) place K
  world : s.world.Retains sc t.world

namespace Move

section Confined

variable {sc : Scope} {s t' : State ν} {w : World ν} {K K' K₁ : List (Frame ν)}
  (hworld : s.world.Retains sc w) (hK : K₁ = K ++ s.stack) (hK' : t'.stack = K' ++ s.stack)

include hworld hK hK'

/-- A handler's program goes on. -/
theorem confined_of_run {program : Program ν} {delivery : Delivery}
    (h : Move app ⟨w, .run sc program, K₁⟩ t')
    (hrestrained : State.restrained app sc ⟨w, .run sc program, K₁⟩ = true)
    (hwithin : Within app sc (s.world.HasHandler sc.manager) (.handler sc delivery) K) :
    Confined app sc s K' t' := by
  cases h with
  | finish | panic | note | «recall» =>
    rw [frames_of_same hK hK' rfl]
    exact ⟨⟨_, by constructor, hwithin⟩, hworld.registry, hworld.guard⟩
  | call =>
    rw [frames_of_push hK hK' rfl]
    obtain rfl := hK
    cases hwithin with
    | attempt hknown hwithin =>
      simp only [State.restrained, List.cons_append, Bool.and_eq_true] at hrestrained
      exact ⟨⟨_, .issue hrestrained.2, .body hrestrained.1 (.attempt hknown hwithin)⟩, hworld⟩
  | rest _ _ _ hended => cases hended

/-- A command is carried out. -/
theorem confined_of_issue {command : Command} (h : Move app ⟨w, .issue sc.thread command, K₁⟩ t')
    (haside : command.isAside app sc = true)
    (hwithin : Within app sc (s.world.HasHandler sc.manager) (.operation sc.thread) K) :
    Confined app sc s K' t' := by
  obtain ⟨hmode, hmanager, haside⟩ := Command.isAside_iff.1 haside
  cases h with
  | direct =>
    rw [frames_of_same hK hK' rfl, hmanager]
    exact ⟨⟨_, .perform haside, hwithin⟩, hworld⟩
  | caught =>
    rw [frames_of_push hK hK' rfl, hmanager]
    exact ⟨⟨_, .perform haside, .contained hwithin⟩, hworld⟩
  | spawned _ _ _ _ hspawned => exact absurd hspawned hmode
  | rest _ _ _ hended => cases hended

/-- An operation is carried out. -/
theorem confined_of_perform {operation : Operation}
    (h : Move app ⟨w, .perform sc operation, K₁⟩ t')
    (haside : operation.isAside app sc.manager = true)
    (hwithin : Within app sc (s.world.HasHandler sc.manager) (.operation sc.thread) K) :
    Confined app sc s K' t' := by
  -- It asks for no change of the registry.
  have hop := Operation.isMembership_of_isAside haside
  cases h with
  | query =>
    rw [frames_of_same hK hK' rfl]
    exact ⟨⟨_, .answered, hwithin⟩, hworld⟩
  | fire w event =>
    rw [frames_of_push hK hK' rfl]
    exact ⟨⟨_, .dispatch, .firing (Operation.reports_of_isAside haside) hwithin⟩, hworld.enter sc⟩
  | kept _ _ _ _ _ _ _ hchange | stall _ _ _ _ _ _ hchange | joined _ _ _ _ _ _ _ hchange
      | parted _ _ _ _ _ _ _ hchange =>
    exact absurd hop (by simp [hchange])
  | rest _ _ _ hended => cases hended

/-- An event is dispatched to the handlers of its plan. -/
theorem confined_of_dispatch {origin : Origin} {event : Event}
    (h : Move app ⟨w, .dispatch sc origin event, K₁⟩ t') (hsound : w.Sound app)
    (hwithin : Within app sc (s.world.HasHandler sc.manager) (.dispatch sc event) K) :
    Confined app sc s K' t' := by
  cases h with
  | dispatch =>
    rw [frames_of_same hK hK' rfl]
    exact ⟨⟨_, .deliver (hworld.hasHandler_of_resolve hsound), hwithin⟩, hworld.launch sc _ _⟩
  | rest _ _ _ hended => cases hended

/-- The next handler of a plan is attempted. -/
theorem confined_of_deliver {delivery : Delivery} {rest : List BoundHandler}
    (h : Move app ⟨w, .deliver sc delivery rest, K₁⟩ t')
    (hknown : ∀ x ∈ rest, s.world.HasHandler sc.manager x)
    (hwithin : Within app sc (s.world.HasHandler sc.manager) (.dispatch sc delivery.event) K) :
    Confined app sc s K' t' := by
  cases h with
  | complete =>
    rw [frames_of_same hK hK' rfl]
    exact ⟨⟨_, .completed, hwithin⟩, hworld.record sc _⟩
  | attempt =>
    rw [frames_of_push hK hK' rfl]
    exact ⟨⟨_, .run, .attempt hknown hwithin⟩, (hworld.record sc _).record sc _⟩
  | mismatch =>
    rw [frames_of_same hK hK' rfl]
    exact ⟨⟨_, .fail hknown, hwithin⟩, hworld.record sc _⟩
  | rest _ _ _ hended => cases hended

/-- A failed attempt is dealt with. -/
theorem confined_of_fail {delivery : Delivery} {b : BoundHandler} {failure : Failure}
    {rest : List BoundHandler} (h : Move app ⟨w, .fail sc delivery b failure rest, K₁⟩ t')
    (hknown : ∀ x ∈ b :: rest, s.world.HasHandler sc.manager x)
    (hwithin : Within app sc (s.world.HasHandler sc.manager) (.dispatch sc delivery.event) K) :
    Confined app sc s K' t' := by
  obtain ⟨hb, hrest⟩ := List.forall_mem_cons.1 hknown
  have hfailed := (hworld.record sc (.failed delivery b failure)).addFailure sc hb
  cases h with
  | silent =>
    rw [frames_of_same hK hK' rfl]
    exact ⟨⟨_, .deliver hrest, hwithin⟩, hworld.record sc _⟩
  | undeliverable | unreported =>
    rw [frames_of_same hK hK' rfl]
    exact ⟨⟨_, .deliver hrest, hwithin⟩, hfailed.record sc _⟩
  | report _ _ _ _ _ _ _ _ _ hreport =>
    rw [frames_of_push hK hK' rfl]
    exact ⟨⟨_, .dispatch, .reporting hreport hknown hwithin⟩, hfailed⟩
  | rest _ _ _ hended => cases hended

/-- The result of a handler goes to the attempt that waits for it. -/
theorem confined_of_returned {result : Except ErrorChain Unit} {delivery : Delivery}
    (h : Move app ⟨w, .returned result, K₁⟩ t')
    (hwithin : Within app sc (s.world.HasHandler sc.manager) (.handler sc delivery) K) :
    Confined app sc s K' t' := by
  cases h with
  | succeeded =>
    rw [frames_of_push hK' hK rfl] at hwithin
    cases hwithin with
    | attempt hknown hwithin =>
      exact ⟨⟨_, .deliver (List.forall_mem_cons.1 hknown).2, hwithin⟩, hworld.record sc _⟩
  | failed =>
    rw [frames_of_push hK' hK rfl] at hwithin
    cases hwithin with
    | attempt hknown hwithin => exact ⟨⟨_, .fail hknown, hwithin⟩, hworld⟩
  | rest =>
    rw [frames_of_same hK hK' rfl]
    exact ⟨⟨_, .returned, hwithin⟩, hworld⟩

/-- The end of a dispatch goes to the fire or the report that waits for it. -/
theorem confined_of_completed {event : Event} (h : Move app ⟨w, .completed, K₁⟩ t')
    (hwithin : Within app sc (s.world.HasHandler sc.manager) (.dispatch sc event) K) :
    Confined app sc s K' t' := by
  cases h with
  | close _ _ outermost =>
    rw [frames_of_push hK' hK rfl] at hwithin
    cases hwithin with
    | firing hreport hwithin => exact ⟨⟨_, .answered, hwithin⟩, hworld.leave sc outermost⟩
  | reported =>
    rw [frames_of_push hK' hK rfl] at hwithin
    cases hwithin with
    | reporting hreport hknown hwithin =>
      exact ⟨⟨_, .deliver (List.forall_mem_cons.1 hknown).2, hwithin⟩, hworld.record sc _⟩
  | rest =>
    rw [frames_of_same hK hK' rfl]
    exact ⟨⟨_, .completed, hwithin⟩, hworld⟩

/-- The reply of an operation goes to the handler that waits for it. -/
theorem confined_of_answered {reply : Reply} (h : Move app ⟨w, .answered reply, K₁⟩ t')
    (hwithin : Within app sc (s.world.HasHandler sc.manager) (.operation sc.thread) K) :
    Confined app sc s K' t' := by
  cases h with
  | resume =>
    rw [frames_of_push hK' hK rfl] at hwithin
    cases hwithin with
    | body hreport hwithin => exact ⟨⟨_, .run, hwithin⟩, hworld⟩
  | uncaught =>
    rw [frames_of_push hK' hK rfl] at hwithin
    cases hwithin with
    | contained hwithin => exact ⟨⟨_, .answered, hwithin⟩, hworld⟩
  | wait =>
    rw [frames_of_push hK' hK rfl] at hwithin
    cases hwithin
  | rest =>
    rw [frames_of_same hK hK' rfl]
    exact ⟨⟨_, .answered, hwithin⟩, hworld⟩

/-- A panic goes one frame down. -/
theorem confined_of_unwinding {payload : Payload} {place : Place}
    (h : Move app ⟨w, .unwinding payload, K₁⟩ t')
    (hwithin : Within app sc (s.world.HasHandler sc.manager) place K) :
    Confined app sc s K' t' := by
  cases h with
  | panicked =>
    rw [frames_of_push hK' hK rfl] at hwithin
    cases hwithin with
    | attempt hknown hwithin => exact ⟨⟨_, .fail hknown, hwithin⟩, hworld⟩
  | escape =>
    rw [frames_of_push hK' hK rfl] at hwithin
    cases hwithin with
    | attempt hknown hwithin => exact ⟨⟨_, .unwinding, hwithin⟩, hworld⟩
  | abandon _ _ _ outermost =>
    rw [frames_of_push hK' hK rfl] at hwithin
    cases hwithin with
    | firing hreport hwithin => exact ⟨⟨_, .unwinding, hwithin⟩, hworld.leave sc outermost⟩
  | abandonReport =>
    rw [frames_of_push hK' hK rfl] at hwithin
    cases hwithin with
    | reporting hreport hknown hwithin => exact ⟨⟨_, .unwinding, hwithin⟩, hworld⟩
  | contain =>
    rw [frames_of_push hK' hK rfl] at hwithin
    cases hwithin with
    | contained hwithin => exact ⟨⟨_, .answered, hwithin⟩, hworld⟩
  | unwindBody =>
    rw [frames_of_push hK' hK rfl] at hwithin
    cases hwithin with
    | body hreport hwithin => exact ⟨⟨_, .unwinding, hwithin⟩, hworld⟩
  | unwindThread =>
    rw [frames_of_push hK' hK rfl] at hwithin
    cases hwithin
  | rest =>
    rw [frames_of_same hK hK' rfl]
    exact ⟨⟨_, .unwinding, hwithin⟩, hworld⟩

end Confined

/-- Whatever is done in a step, restrained handlers keep to their fire. -/
theorem confined {sc : Scope} {s t t' : State ν} {K K' : List (Frame ν)}
    (h : Move app t t') (hrestrained : t.restrained app sc = true) (hsound : t.world.Sound app)
    (hK : t.stack = K ++ s.stack) (hK' : t'.stack = K' ++ s.stack)
    (ht : Confined app sc s K t) : Confined app sc s K' t' := by
  obtain ⟨w, control, K₁⟩ := t
  obtain ⟨⟨place, hplace, hwithin⟩, hworld⟩ := ht
  cases hplace with
  | run => exact h.confined_of_run hworld hK hK' hrestrained hwithin
  | issue haside => exact h.confined_of_issue hworld hK hK' haside hwithin
  | perform haside => exact h.confined_of_perform hworld hK hK' haside hwithin
  | dispatch => exact h.confined_of_dispatch hworld hK hK' hsound hwithin
  | deliver hknown => exact h.confined_of_deliver hworld hK hK' hknown hwithin
  | fail hknown => exact h.confined_of_fail hworld hK hK' hknown hwithin
  | returned => exact h.confined_of_returned hworld hK hK' hwithin
  | completed => exact h.confined_of_completed hworld hK hK' hwithin
  | answered => exact h.confined_of_answered hworld hK hK' hwithin
  | unwinding => exact h.confined_of_unwinding hworld hK hK' hwithin

end Move

/-! ## A whole fire -/

section Fire

variable {s : State ν} {sc : Scope} {event : Event}

theorem OutermostFire.confined (hs : Reachable app s) (h : OutermostFire s sc event)
    (hrestrained : ∀ t, During app s t → t.restrained app sc = true) {t : State ν}
    (ht : During app s t) : ∃ K, t.stack = K ++ s.stack ∧ Confined app sc s K t := by
  have hstart : Confined app sc s [] s := by
    obtain ⟨origin, hcontrol⟩ := h.control
    refine ⟨⟨.dispatch sc event, ?_, .base⟩, rfl, ?_⟩
    · rw [hcontrol]
      exact .dispatch
    · rw [h.guard?_eq hs]
      exact List.forall_mem_nil _
  apply ht.induction hstart
  intro t t' K K' hd _ hK hK' hmove hconfined
  exact hmove.confined (hrestrained _ hd) (hd.reachable hs).sound hK hK' hconfined

end Fire

end EventDispatch
