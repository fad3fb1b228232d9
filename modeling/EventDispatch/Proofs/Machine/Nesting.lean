import EventDispatch.Proofs.Machine.Run

/-!
# How frames are nested

The frames on the stack are nested in a fixed way: a dispatch runs above the fire or the report that
waits for it, a handler above the attempt that called it, an operation above the handler that asked
for it. `Nested` states this of a state, together with where the control stands above the stack, and
`Reachable.nested` proves it. It also says how far a panic gets: a panic that has left a handler's
attempt belongs to a manager that does not contain panics, so no panic leaves a dispatch of a
manager that does (`Nested.containPanics_of_firing`, `Nested.containPanics_of_reporting`).
-/

set_option autoImplicit false

namespace EventDispatch

variable {ν : Type} {app : Application ν}

/-- Where the control stands: within an operation on a thread, within the dispatch of an event, or
within a handler called by a delivery. -/
inductive Place where
  | operation (thread : ThreadId)
  | dispatch (scope : Scope) (event : Event)
  | handler (scope : Scope) (delivery : Delivery)

/-- Whether a stack is one above which the control can stand at a place. -/
inductive Supports : Place → List (Frame ν) → Prop
  | base {thread : ThreadId} : Supports (.operation thread) []
  | contained {thread : ThreadId} {K : List (Frame ν)} :
      Supports (.operation thread) K → Supports (.operation thread) (.contained :: K)
  | joined {thread thread' : ThreadId} {K : List (Frame ν)} :
      Supports (.operation thread) K → Supports (.operation thread') (.joined :: K)
  | body {scope : Scope} {delivery : Delivery} {next : Reply → Program ν} {K : List (Frame ν)} :
      Supports (.handler scope delivery) K →
      Supports (.operation scope.thread) (.body scope next :: K)
  | firing {scope : Scope} {event : Event} {outermost : Bool} {reply : Reply}
      {K : List (Frame ν)} :
      Supports (.operation scope.thread) K →
      Supports (.dispatch scope event) (.firing scope outermost reply :: K)
  | reporting {scope : Scope} {delivery : Delivery} {b : BoundHandler} {failure : Failure}
      {rest : List BoundHandler} {K : List (Frame ν)} :
      Supports (.dispatch scope delivery.event) K →
      Supports (.dispatch scope (.observerFailed b.observer b.descriptor delivery.event failure))
        (.reporting scope delivery b failure rest :: K)
  | attempt {scope : Scope} {delivery : Delivery} {b : BoundHandler} {rest : List BoundHandler}
      {K : List (Frame ν)} :
      Supports (.dispatch scope delivery.event) K →
      Supports (.handler scope delivery) (.attempt scope delivery b rest :: K)

/-- A stack above which a dispatch can stand supports nothing but dispatches in the same scope. -/
theorem Supports.eq_dispatch {place : Place} {scope : Scope} {event : Event} {K : List (Frame ν)}
    (hbase : Supports (.dispatch scope event) K) (h : Supports place K) :
    ∃ event', place = .dispatch scope event' := by
  cases hbase with
  | firing | reporting =>
    cases h
    exact ⟨_, rfl⟩

/-- Where a control stands. A panic may be anywhere, but it is out of a handler and still in the
dispatch only if the manager does not contain panics. -/
inductive Control.StandsAt (app : Application ν) : Control ν → Place → Prop
  | run {scope program delivery} : StandsAt app (.run scope program) (.handler scope delivery)
  | returned {result scope delivery} : StandsAt app (.returned result) (.handler scope delivery)
  | issue {thread command} : StandsAt app (.issue thread command) (.operation thread)
  | perform {scope operation} :
      StandsAt app (.perform scope operation) (.operation scope.thread)
  | answered {reply thread} : StandsAt app (.answered reply) (.operation thread)
  | dispatch {scope origin event} :
      StandsAt app (.dispatch scope origin event) (.dispatch scope event)
  | deliver {scope delivery handlers} :
      StandsAt app (.deliver scope delivery handlers) (.dispatch scope delivery.event)
  | fail {scope delivery b failure rest} :
      StandsAt app (.fail scope delivery b failure rest) (.dispatch scope delivery.event)
  | completed {scope event} : StandsAt app .completed (.dispatch scope event)
  | unwinding {payload place} :
      (∀ scope event, place = .dispatch scope event →
        (app.settings scope.manager).containPanics = false) →
      StandsAt app (.unwinding payload) place
  | stuck {thread} : StandsAt app .stuck (.operation thread)

/-- The control of a state stands at a place above its stack. -/
def Nested (app : Application ν) (s : State ν) : Prop :=
  ∃ place, s.control.StandsAt app place ∧ Supports place s.stack

theorem Move.nested {s t : State ν} (h : Move app s t) (hs : Nested app s) : Nested app t := by
  obtain ⟨place, hplace, hstack⟩ := hs
  cases h with
  | finish => cases hplace; exact ⟨_, .returned, hstack⟩
  | panic => cases hplace; exact ⟨_, .unwinding (by simp), hstack⟩
  | call => cases hplace; exact ⟨_, .issue, .body hstack⟩
  | note => cases hplace; exact ⟨_, .run, hstack⟩
  | «recall» => cases hplace; exact ⟨_, .run, hstack⟩
  | direct => cases hplace; exact ⟨_, .perform, hstack⟩
  | caught => cases hplace; exact ⟨_, .perform, .contained hstack⟩
  | spawned => cases hplace; exact ⟨_, .perform, .joined hstack⟩
  | query => cases hplace; exact ⟨_, .answered, hstack⟩
  | kept => cases hplace; exact ⟨_, .answered, hstack⟩
  | stall => cases hplace; exact ⟨_, .stuck, hstack⟩
  | joined => cases hplace; exact ⟨_, .dispatch, .firing hstack⟩
  | parted => cases hplace; exact ⟨_, .dispatch, .firing hstack⟩
  | fire => cases hplace; exact ⟨_, .dispatch, .firing hstack⟩
  | dispatch => cases hplace; exact ⟨_, .deliver, hstack⟩
  | complete => cases hplace; exact ⟨_, .completed, hstack⟩
  | attempt => cases hplace; exact ⟨_, .run, .attempt hstack⟩
  | mismatch => cases hplace; exact ⟨_, .fail, hstack⟩
  | silent => cases hplace; exact ⟨_, .deliver, hstack⟩
  | undeliverable => cases hplace; exact ⟨_, .deliver, hstack⟩
  | unreported => cases hplace; exact ⟨_, .deliver, hstack⟩
  | report => cases hplace; exact ⟨_, .dispatch, .reporting hstack⟩
  | succeeded => cases hstack with | attempt hK => exact ⟨_, .deliver, hK⟩
  | failed => cases hstack with | attempt hK => exact ⟨_, .fail, hK⟩
  | close => cases hstack with | firing hK => exact ⟨_, .answered, hK⟩
  | reported => cases hstack with | reporting hK => exact ⟨_, .deliver, hK⟩
  | resume => cases hstack with | body hK => exact ⟨_, .run, hK⟩
  | uncaught => cases hstack with | contained hK => exact ⟨_, .answered, hK⟩
  | wait => cases hstack with | joined hK => exact ⟨_, .answered, hK⟩
  | panicked => cases hstack with | attempt hK => exact ⟨_, .fail, hK⟩
  | escape w payload scope delivery b rest K hcontain =>
    cases hstack with
    | attempt hK =>
      -- The panic gets into the dispatch because the manager does not contain it.
      refine ⟨_, .unwinding ?_, hK⟩
      rintro sc event heq
      cases heq
      exact hcontain
  | abandon => cases hstack with | firing hK => exact ⟨_, .unwinding (by simp), hK⟩
  | abandonReport w payload scope =>
    cases hstack with
    | reporting hK =>
      cases hplace with
      | unwinding hcontain =>
        -- It comes out of the dispatch of the report, which has the same manager.
        refine ⟨_, .unwinding ?_, hK⟩
        rintro sc event heq
        cases heq
        exact hcontain scope _ rfl
  | contain => cases hstack with | contained hK => exact ⟨_, .answered, hK⟩
  | unwindBody => cases hstack with | body hK => exact ⟨_, .unwinding (by simp), hK⟩
  | unwindThread =>
    cases hstack with
    | @joined thread _ _ hK => exact ⟨.operation thread, .unwinding (by simp), hK⟩
  | stuck | rest => exact ⟨place, hplace, hstack⟩

theorem Reachable.nested {s : State ν} (hs : Reachable app s) : Nested app s := by
  apply hs.induction
  · intro command
    exact ⟨_, .issue, .base⟩
  · intro s t _ hmove h
    exact hmove.nested h
  · intro s r command _ _ _
    exact ⟨_, .issue, .base⟩

/-- No panic stands in a dispatch of a manager that contains panics. -/
theorem Nested.containPanics_of_dispatch {s : State ν} (hs : Nested app s) {payload : Payload}
    (hcontrol : s.control = .unwinding payload) {scope : Scope}
    (hdispatch : ∀ {place}, Supports place s.stack → ∃ event, place = .dispatch scope event) :
    (app.settings scope.manager).containPanics = false := by
  obtain ⟨place, hplace, hsupports⟩ := hs
  obtain ⟨event, rfl⟩ := hdispatch hsupports
  rw [hcontrol] at hplace
  cases hplace with
  | unwinding hcontain => exact hcontain scope event rfl

/-- No panic leaves the dispatch of a report of a manager that contains panics. -/
theorem Nested.containPanics_of_reporting {s : State ν} (hs : Nested app s) {payload : Payload}
    (hcontrol : s.control = .unwinding payload) {scope : Scope} {delivery : Delivery}
    {b : BoundHandler} {failure : Failure} {rest : List BoundHandler} {K : List (Frame ν)}
    (hstack : s.stack = .reporting scope delivery b failure rest :: K) :
    (app.settings scope.manager).containPanics = false := by
  apply hs.containPanics_of_dispatch hcontrol
  intro place hsupports
  rw [hstack] at hsupports
  cases hsupports
  exact ⟨_, rfl⟩

end EventDispatch
