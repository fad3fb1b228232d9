import EventDispatch.Machine.State

/-!
# Steps of the machine

`State.step` does one thing at a time. An operation that changes the registry announces the change
by firing an event; a fire dispatches its event to the handlers of the plan, one after the other; a
failed attempt is reported once per handler and outermost fire, by an event of its own that is
dispatched before the next handler is attempted; and a panic that is not contained takes the stack
down, ending the guards of the fires that it passes. A state whose command has ended, or comes to no
end, stays as it is.
-/

set_option autoImplicit false

namespace EventDispatch

variable {ν : Type} (app : Application ν)

namespace State

/-- Opens a fire in a scope and dispatches its event. The outermost fire of the scope starts with an
empty guard; a nested one shares the guard that it finds. -/
def fire (s : State ν) (scope : Scope) (origin : Origin) (event : Event) (reply : Reply) :
    State ν :=
  let outermost := (s.world.guard? scope).isNone
  { world := if outermost then s.world.setGuard scope [] else s.world
    control := .dispatch scope origin event
    stack := .firing scope outermost reply :: s.stack }

/-- Answers an operation on the registry; a change is announced first. An operation about whose
bindings nothing can be said gives no reply: a counter that cannot be raised faults, or starts again
from the least number and counts up a chain without end for ever. -/
def conclude (s : State ν) (scope : Scope) (announce : String → Event) :
    World.Change × World ν → State ν
  | (.none, w) => { s with world := w, control := .answered (.flag false) }
  | (.refused refusal, w) => { s with world := w, control := .answered (.refused refusal) }
  | (.undecided, w) => { s with world := w, control := .stuck }
  | (.made observerType, w) =>
    { s with world := w }.fire scope .membership (announce observerType) (.flag true)

/-- Carries out an operation. -/
def perform (s : State ν) (scope : Scope) : Operation → State ν
  | .add o => s.conclude scope (.observerAdded o) (s.world.add app scope o)
  | .addComponent o => s.conclude scope (.observerAdded o) (s.world.addComponent app scope o)
  | .remove o => s.conclude scope (.observerRemoved o) (s.world.remove scope o)
  | .removeComponent o => s.conclude scope (.observerRemoved o) (s.world.remove scope o)
  | .isRegistered o =>
    { s with control := .answered (.flag ((s.world.manager scope.manager).registry.holds o)) }
  | .fire event => s.fire scope .request event (.delivered event)
  | .status =>
    let state := s.world.manager scope.manager
    { s with control := .answered (.status state.registry.length state.cache.size) }

/-- Carries out a command for a thread. -/
def issue (s : State ν) (thread : ThreadId) (command : Command) : State ν :=
  match command.mode with
  | .direct => { s with control := .perform ⟨thread, command.manager⟩ command.operation }
  | .caught =>
    { s with
      control := .perform ⟨thread, command.manager⟩ command.operation
      stack := .contained :: s.stack }
  -- A new thread has no fires under way, hence no guards.
  | .spawned =>
    { world := { s.world with nextThread := s.world.nextThread + 1 }
      control := .perform ⟨s.world.nextThread, command.manager⟩ command.operation
      stack := .joined :: s.stack }

/-- Runs a handler's program up to its next operation, note or look-up, or to its end. -/
def run (s : State ν) (scope : Scope) : Program ν → State ν
  | .finish result => { s with control := .returned result }
  | .panic payload => { s with control := .unwinding payload }
  | .perform command next =>
    { s with control := .issue scope.thread command, stack := .body scope next :: s.stack }
  | .note entry next =>
    { s with world := s.world.record scope (.noted entry), control := .run scope next }
  | .recall next => { s with control := .run scope (next s.world.notes) }

/-- Dispatches an event: resolves its plan and starts the delivery. -/
def dispatch (s : State ν) (scope : Scope) (origin : Origin) (event : Event) : State ν :=
  let (plan, w) := s.world.resolve app scope event.type
  let delivery : Delivery := ⟨w.nextDispatch, event⟩
  let w := { w with nextDispatch := w.nextDispatch + 1 }
  { s with
    world := w.record scope (.dispatched origin delivery)
    control := .deliver scope delivery plan.toList }

/-- Attempts the next handler of a plan: gives it its part of the event, or fails if the event has
no such part. -/
def deliver (s : State ν) (scope : Scope) (delivery : Delivery) : List BoundHandler → State ν
  | [] => { s with world := s.world.record scope (.completed delivery), control := .completed }
  | b :: rest =>
    let w := s.world.record scope (.attempted delivery b)
    match delivery.event.part? (app.maxDepth scope.manager) b.eventType with
    | some part =>
      { world := w.record scope (.called delivery b part)
        control := .run scope (app.program scope.manager b.observer b.binding part)
        stack := .attempt scope delivery b rest :: s.stack }
    | none =>
      let mismatch := .eventMismatch (app.names.eventType b.eventType)
        (app.names.eventType delivery.event.type)
      { s with world := w, control := .fail scope delivery b mismatch rest }

/-- Deals with a failed attempt. A handler that failed before in the same fire stays silent. A
failure that lies in the event is logged. Any other is reported by an event and then logged, or
logged alone if the event was a report itself. -/
def fail (s : State ν) (scope : Scope) (delivery : Delivery) (b : BoundHandler)
    (failure : Failure) (rest : List BoundHandler) : State ν :=
  let w := s.world.record scope (.failed delivery b failure)
  if w.hasFailed scope b.id then { s with world := w, control := .deliver scope delivery rest }
  else
    -- The handler counts as failed before its report is dispatched, so that the report cannot
    -- bring forth another one of the same handler.
    let w := w.addFailure scope b.id
    if failure.isMechanical then
      { s with
        world := w.record scope (.undeliverable delivery b failure)
        control := .deliver scope delivery rest }
    else if delivery.event.isFailureReport app.hierarchy (app.maxDepth scope.manager) then
      { s with
        world := w.record scope (.handlerError delivery b failure)
        control := .deliver scope delivery rest }
    else
      { world := w
        control := .dispatch scope (.report b.id)
          (.observerFailed b.observer b.descriptor delivery.event failure)
        stack := .reporting scope delivery b failure rest :: s.stack }

/-- Takes the result of a handler to the delivery that waits for it. -/
def returned (s : State ν) (result : Except ErrorChain Unit) : State ν :=
  match s.stack with
  | .attempt scope delivery b rest :: below =>
    match result with
    | .ok () =>
      { world := s.world.record scope (.succeeded delivery b)
        control := .deliver scope delivery rest
        stack := below }
    | .error e => { s with control := .fail scope delivery b (.returned e) rest, stack := below }
  | _ => s

/-- Takes the end of a dispatch to whatever waits for it. -/
def completed (s : State ν) : State ν :=
  match s.stack with
  | .firing scope outermost reply :: below =>
    { world := if outermost then s.world.dropGuard scope else s.world
      control := .answered reply
      stack := below }
  | .reporting scope delivery b failure rest :: below =>
    { world := s.world.record scope (.handlerError delivery b failure)
      control := .deliver scope delivery rest
      stack := below }
  | _ => s

/-- Takes the reply of an operation to whatever waits for it. -/
def answered (s : State ν) (reply : Reply) : State ν :=
  match s.stack with
  | .body scope next :: below => { s with control := .run scope (next reply), stack := below }
  | .contained :: below => { s with stack := below }
  | .joined :: below => { s with stack := below }
  | _ => s

/-- Takes a panic one frame down the stack. -/
def unwinding (s : State ν) (payload : Payload) : State ν :=
  match s.stack with
  | .attempt scope delivery b rest :: below =>
    if (app.settings scope.manager).containPanics then
      { s with
        control := .fail scope delivery b (.panicked payload.message) rest
        stack := below }
    else { s with stack := below }
  -- A fire that a panic leaves ends its guard just as one that returns.
  | .firing scope outermost _ :: below =>
    { s with
      world := if outermost then s.world.dropGuard scope else s.world
      stack := below }
  | .contained :: below => { s with control := .answered (.panicked payload), stack := below }
  | .body _ _ :: below => { s with stack := below }
  | .reporting .. :: below => { s with stack := below }
  | .joined :: below => { s with stack := below }
  | [] => s

/-- One step of the machine. -/
def step (s : State ν) : State ν :=
  match s.control with
  | .run scope program => s.run scope program
  | .issue thread command => s.issue thread command
  | .perform scope operation => s.perform app scope operation
  | .dispatch scope origin event => s.dispatch app scope origin event
  | .deliver scope delivery handlers => s.deliver app scope delivery handlers
  | .fail scope delivery b failure rest => s.fail app scope delivery b failure rest
  | .returned result => s.returned result
  | .completed => s.completed
  | .answered reply => s.answered reply
  | .unwinding payload => s.unwinding app payload
  | .stuck => s

/-- `n` steps of the machine. -/
def steps : Nat → State ν → State ν
  | 0, s => s
  | n + 1, s => steps n (s.step app)

/-- Runs the machine until the command has ended, for at most `fuel` steps. -/
def runToEnd : Nat → State ν → State ν
  | 0, s => s
  | fuel + 1, s =>
    match s.result? with
    | some _ => s
    | none => runToEnd fuel (s.step app)

@[simp] theorem steps_zero (s : State ν) : s.steps app 0 = s := rfl

@[simp] theorem steps_succ (n : Nat) (s : State ν) :
    s.steps app (n + 1) = (s.step app).steps app n := rfl

theorem steps_add (m n : Nat) (s : State ν) :
    s.steps app (m + n) = (s.steps app m).steps app n := by
  induction m generalizing s with
  | zero => simp
  | succ m ih => rw [Nat.succ_add, steps_succ, steps_succ, ih]

/-- A state whose command has ended stays as it is. -/
theorem step_of_result {s : State ν} {r : Except Payload Reply} (hr : s.result? = some r) :
    s.step app = s := by
  obtain ⟨w, c, stack⟩ := s
  cases c <;> cases stack <;> simp [result?] at hr <;> rfl

theorem steps_of_result {s : State ν} {r : Except Payload Reply} (hr : s.result? = some r)
    (n : Nat) : s.steps app n = s := by
  induction n with
  | zero => rfl
  | succ n ih => rw [steps_succ, step_of_result app hr, ih]

/-- Running to the end is taking all the steps: the last ones change nothing. -/
theorem runToEnd_eq_steps (fuel : Nat) (s : State ν) :
    s.runToEnd app fuel = s.steps app fuel := by
  induction fuel generalizing s with
  | zero => rfl
  | succ fuel ih =>
    rw [runToEnd, steps_succ]
    split
    · rename_i hr
      rw [step_of_result app hr, steps_of_result app hr]
    · exact ih _

end State

end EventDispatch
