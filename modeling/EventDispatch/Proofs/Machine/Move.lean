import EventDispatch.Machine.Step
import EventDispatch.Proofs.Machine.World

/-!
# The moves of the machine

`Move app s t` lists what one step can do, one rule for each kind of step, with the state before it
and the state after it. Every step is a move (`move_step`), so what all moves keep is kept along
every run, and no proof of an invariant opens the step function.
-/

set_option autoImplicit false

namespace EventDispatch

variable {ν : Type}

/-- Whether an operation asks for a change of the registry. -/
def Operation.isMembership : Operation → Bool
  | .add _ | .addComponent _ | .remove _ | .removeComponent _ => true
  | _ => false

/-- Whether something has ended and its outcome goes to whatever waits for it. -/
def Control.isOutcome : Control ν → Bool
  | .returned _ | .completed | .answered _ | .unwinding _ => true
  | _ => false

/-- What one step of the machine does. -/
inductive Move (app : Application ν) : State ν → State ν → Prop
  -- A handler's program goes on.
  | finish (w scope result K) :
      Move app ⟨w, .run scope (.finish result), K⟩ ⟨w, .returned result, K⟩
  | panic (w scope payload K) :
      Move app ⟨w, .run scope (.panic payload), K⟩ ⟨w, .unwinding payload, K⟩
  | call (w scope command next K) :
      Move app ⟨w, .run scope (.perform command next), K⟩
        ⟨w, .issue scope.thread command, .body scope next :: K⟩
  | note (w scope entry next K) :
      Move app ⟨w, .run scope (.note entry next), K⟩
        ⟨w.record scope (.noted entry), .run scope next, K⟩
  | recall (w scope next K) :
      Move app ⟨w, .run scope (.recall next), K⟩ ⟨w, .run scope (next w.notes), K⟩
  -- A command is carried out.
  | direct (w thread command K) (hmode : command.mode = .direct) :
      Move app ⟨w, .issue thread command, K⟩
        ⟨w, .perform ⟨thread, command.manager⟩ command.operation, K⟩
  | caught (w thread command K) (hmode : command.mode = .caught) :
      Move app ⟨w, .issue thread command, K⟩
        ⟨w, .perform ⟨thread, command.manager⟩ command.operation, .contained :: K⟩
  | spawned (w thread command K) (hmode : command.mode = .spawned) :
      Move app ⟨w, .issue thread command, K⟩
        ⟨{ w with nextThread := w.nextThread + 1 },
          .perform ⟨w.nextThread, command.manager⟩ command.operation, .joined :: K⟩
  -- An operation is carried out.
  | query (w scope operation reply K) (hop : operation.isMembership = false) :
      Move app ⟨w, .perform scope operation, K⟩ ⟨w, .answered reply, K⟩
  | kept (w scope operation k fs reply K) (hop : operation.isMembership = true)
      (hfs : ∀ f ∈ fs, Fact.isRoutine f = true) :
      Move app ⟨w, .perform scope operation, K⟩ ⟨w.chronicle k scope fs, .answered reply, K⟩
  | stall (w scope operation k fs K) (hop : operation.isMembership = true)
      (hfs : ∀ f ∈ fs, Fact.isRoutine f = true) :
      Move app ⟨w, .perform scope operation, K⟩ ⟨w.chronicle k scope fs, .stuck, K⟩
  | joined (w scope operation o type fs K) (hop : operation.isMembership = true)
      (htype : app.observerType? o = some type)
      (hcheck : app.check scope.manager type = some (.ok ()))
      (hnew : (w.manager scope.manager).registry.holds o = false)
      (hfs : ∀ f ∈ fs, Fact.isRoutine f = true) :
      Move app ⟨w, .perform scope operation, K⟩
        ⟨(w.join scope o type fs).enter scope,
          .dispatch scope .membership (.observerAdded o type.name),
          .firing scope (w.guard? scope).isNone (.flag true) :: K⟩
  | parted (w scope operation o member fs K) (hop : operation.isMembership = true)
      (hmember : (w.manager scope.manager).registry.member? o = some member)
      (hfs : ∀ f ∈ fs, Fact.isRoutine f = true) :
      Move app ⟨w, .perform scope operation, K⟩
        ⟨(w.part scope o fs).enter scope,
          .dispatch scope .membership (.observerRemoved o member.observerType),
          .firing scope (w.guard? scope).isNone (.flag true) :: K⟩
  | fire (w scope event K) :
      Move app ⟨w, .perform scope (.fire event), K⟩
        ⟨w.enter scope, .dispatch scope .request event,
          .firing scope (w.guard? scope).isNone (.delivered event) :: K⟩
  -- An event is dispatched to the handlers of its plan.
  | dispatch (w scope origin event K) :
      Move app ⟨w, .dispatch scope origin event, K⟩
        ⟨w.launch app scope origin event,
          .deliver scope ⟨w.nextDispatch, event⟩ (w.resolve app scope event.type).1.toList, K⟩
  | complete (w scope delivery K) :
      Move app ⟨w, .deliver scope delivery [], K⟩
        ⟨w.record scope (.completed delivery), .completed, K⟩
  | attempt (w scope delivery b rest part K)
      (hpart : delivery.event.part? (app.maxDepth scope.manager) b.eventType = some part) :
      Move app ⟨w, .deliver scope delivery (b :: rest), K⟩
        ⟨(w.record scope (.attempted delivery b)).record scope (.called delivery b part),
          .run scope (app.program scope.manager b.observer b.binding part),
          .attempt scope delivery b rest :: K⟩
  | mismatch (w scope delivery b rest K)
      (hpart : delivery.event.part? (app.maxDepth scope.manager) b.eventType = none) :
      Move app ⟨w, .deliver scope delivery (b :: rest), K⟩
        ⟨w.record scope (.attempted delivery b),
          .fail scope delivery b (.eventMismatch (app.names.eventType b.eventType)
            (app.names.eventType delivery.event.type)) rest, K⟩
  -- A failed attempt is dealt with.
  | silent (w scope delivery b failure rest K) (hfailed : w.hasFailed scope b.id = true) :
      Move app ⟨w, .fail scope delivery b failure rest, K⟩
        ⟨w.record scope (.failed delivery b failure), .deliver scope delivery rest, K⟩
  | undeliverable (w scope delivery b failure rest K) (hfailed : w.hasFailed scope b.id = false)
      (hmechanical : failure.isMechanical = true) :
      Move app ⟨w, .fail scope delivery b failure rest, K⟩
        ⟨((w.record scope (.failed delivery b failure)).addFailure scope b.id).record scope
            (.undeliverable delivery b failure),
          .deliver scope delivery rest, K⟩
  | unreported (w scope delivery b failure rest K) (hfailed : w.hasFailed scope b.id = false)
      (hmechanical : failure.isMechanical = false)
      (hreport : delivery.event.isFailureReport app.hierarchy (app.maxDepth scope.manager)
        = true) :
      Move app ⟨w, .fail scope delivery b failure rest, K⟩
        ⟨((w.record scope (.failed delivery b failure)).addFailure scope b.id).record scope
            (.handlerError delivery b failure),
          .deliver scope delivery rest, K⟩
  | report (w scope delivery b failure rest K) (hfailed : w.hasFailed scope b.id = false)
      (hmechanical : failure.isMechanical = false)
      (hreport : delivery.event.isFailureReport app.hierarchy (app.maxDepth scope.manager)
        = false) :
      Move app ⟨w, .fail scope delivery b failure rest, K⟩
        ⟨(w.record scope (.failed delivery b failure)).addFailure scope b.id,
          .dispatch scope (.report b.id)
            (.observerFailed b.observer b.descriptor delivery.event failure),
          .reporting scope delivery b failure rest :: K⟩
  -- Something ends and goes to whatever waits for it.
  | succeeded (w scope delivery b rest K) :
      Move app ⟨w, .returned (.ok ()), .attempt scope delivery b rest :: K⟩
        ⟨w.record scope (.succeeded delivery b), .deliver scope delivery rest, K⟩
  | failed (w e scope delivery b rest K) :
      Move app ⟨w, .returned (.error e), .attempt scope delivery b rest :: K⟩
        ⟨w, .fail scope delivery b (.returned e) rest, K⟩
  | close (w scope outermost reply K) :
      Move app ⟨w, .completed, .firing scope outermost reply :: K⟩
        ⟨w.leave scope outermost, .answered reply, K⟩
  | reported (w scope delivery b failure rest K) :
      Move app ⟨w, .completed, .reporting scope delivery b failure rest :: K⟩
        ⟨w.record scope (.handlerError delivery b failure), .deliver scope delivery rest, K⟩
  | resume (w reply scope next K) :
      Move app ⟨w, .answered reply, .body scope next :: K⟩ ⟨w, .run scope (next reply), K⟩
  | uncaught (w reply K) : Move app ⟨w, .answered reply, .contained :: K⟩ ⟨w, .answered reply, K⟩
  | wait (w reply K) : Move app ⟨w, .answered reply, .joined :: K⟩ ⟨w, .answered reply, K⟩
  -- A panic goes one frame down.
  | panicked (w payload scope delivery b rest K)
      (hcontain : (app.settings scope.manager).containPanics = true) :
      Move app ⟨w, .unwinding payload, .attempt scope delivery b rest :: K⟩
        ⟨w, .fail scope delivery b (.panicked payload.message) rest, K⟩
  | escape (w payload scope delivery b rest K)
      (hcontain : (app.settings scope.manager).containPanics = false) :
      Move app ⟨w, .unwinding payload, .attempt scope delivery b rest :: K⟩
        ⟨w, .unwinding payload, K⟩
  | abandon (w payload scope outermost reply K) :
      Move app ⟨w, .unwinding payload, .firing scope outermost reply :: K⟩
        ⟨w.leave scope outermost, .unwinding payload, K⟩
  | abandonReport (w payload scope delivery b failure rest K) :
      Move app ⟨w, .unwinding payload, .reporting scope delivery b failure rest :: K⟩
        ⟨w, .unwinding payload, K⟩
  | contain (w payload K) :
      Move app ⟨w, .unwinding payload, .contained :: K⟩ ⟨w, .answered (.panicked payload), K⟩
  | unwindBody (w payload scope next K) :
      Move app ⟨w, .unwinding payload, .body scope next :: K⟩ ⟨w, .unwinding payload, K⟩
  | unwindThread (w payload K) :
      Move app ⟨w, .unwinding payload, .joined :: K⟩ ⟨w, .unwinding payload, K⟩
  -- What comes to no end stays as it is, and so does what has ended if nothing waits for it.
  | stuck (w K) : Move app ⟨w, .stuck, K⟩ ⟨w, .stuck, K⟩
  | rest (w control K) (hended : control.isOutcome = true) :
      Move app ⟨w, control, K⟩ ⟨w, control, K⟩

namespace State

variable (app : Application ν)

/-- A change that an operation makes is announced; an attempt that changes nothing is answered. -/
theorem move_conclude_of_registers {w : World ν} {scope : Scope} {o : ObjectId}
    {r : World.Change × World ν} (hr : w.Registers app scope o r) {operation : Operation}
    (hop : operation.isMembership = true) (K : List (Frame ν)) :
    Move app ⟨w, .perform scope operation, K⟩
      ((⟨w, .perform scope operation, K⟩ : State ν).conclude scope (.observerAdded o) r) := by
  cases hr with
  | @kept change k fs hmade hfs =>
    cases change with
    | none => exact .kept w scope operation k fs _ K hop hfs
    | refused refusal => exact .kept w scope operation k fs _ K hop hfs
    | undecided => exact .stall w scope operation k fs K hop hfs
    | made name => exact absurd rfl (hmade name)
  | joined htype hcheck hnew hfs =>
    exact .joined w scope operation o _ _ K hop htype hcheck hnew hfs

theorem move_conclude_of_removes {w : World ν} {scope : Scope} {o : ObjectId}
    {r : World.Change × World ν} (hr : w.Removes scope o r) {operation : Operation}
    (hop : operation.isMembership = true) (K : List (Frame ν)) :
    Move app ⟨w, .perform scope operation, K⟩
      ((⟨w, .perform scope operation, K⟩ : State ν).conclude scope (.observerRemoved o) r) := by
  cases hr with
  | kept =>
    have h : Move app ⟨w, .perform scope operation, K⟩
        ⟨w.chronicle 0 scope [], .answered (.flag false), K⟩ :=
      .kept w scope operation 0 [] (.flag false) K hop (by simp)
    rwa [World.chronicle_zero_nil] at h
  | parted hmember hfs => exact .parted w scope operation o _ _ K hop hmember hfs

theorem move_perform (w : World ν) (scope : Scope) (operation : Operation)
    (K : List (Frame ν)) :
    Move app ⟨w, .perform scope operation, K⟩
      ((⟨w, .perform scope operation, K⟩ : State ν).perform app scope operation) := by
  cases operation with
  | add o => exact move_conclude_of_registers app (w.registers_add app scope o) rfl K
  | addComponent o =>
    exact move_conclude_of_registers app (w.registers_addComponent app scope o) rfl K
  | remove o => exact move_conclude_of_removes app (w.removes_remove scope o) rfl K
  | removeComponent o => exact move_conclude_of_removes app (w.removes_remove scope o) rfl K
  | isRegistered o => exact .query w scope _ _ K rfl
  | fire event => exact .fire w scope event K
  | status => exact .query w scope _ _ K rfl

theorem move_deliver (w : World ν) (scope : Scope) (delivery : Delivery)
    (handlers : List BoundHandler) (K : List (Frame ν)) :
    Move app ⟨w, .deliver scope delivery handlers, K⟩
      ((⟨w, .deliver scope delivery handlers, K⟩ : State ν).deliver app scope delivery
        handlers) := by
  cases handlers with
  | nil => exact .complete w scope delivery K
  | cons b rest =>
    unfold deliver
    dsimp only
    split
    · rename_i part hpart
      exact .attempt w scope delivery b rest part K hpart
    · rename_i hpart
      exact .mismatch w scope delivery b rest K hpart

theorem move_fail (w : World ν) (scope : Scope) (delivery : Delivery) (b : BoundHandler)
    (failure : Failure) (rest : List BoundHandler) (K : List (Frame ν)) :
    Move app ⟨w, .fail scope delivery b failure rest, K⟩
      ((⟨w, .fail scope delivery b failure rest, K⟩ : State ν).fail app scope delivery b failure
        rest) := by
  unfold fail
  dsimp only
  split
  · rename_i hfailed
    exact .silent w scope delivery b failure rest K hfailed
  · rename_i hfailed
    have hfailed : w.hasFailed scope b.id = false := Bool.eq_false_iff.2 hfailed
    split
    · rename_i hmechanical
      exact .undeliverable w scope delivery b failure rest K hfailed hmechanical
    · rename_i hmechanical
      have hmechanical := Bool.eq_false_iff.2 hmechanical
      split
      · rename_i hreport
        exact .unreported w scope delivery b failure rest K hfailed hmechanical hreport
      · rename_i hreport
        exact .report w scope delivery b failure rest K hfailed hmechanical
          (Bool.eq_false_iff.2 hreport)

theorem move_unwinding_attempt (w : World ν) (payload : Payload) (scope : Scope)
    (delivery : Delivery) (b : BoundHandler) (rest : List BoundHandler) (K : List (Frame ν)) :
    Move app ⟨w, .unwinding payload, .attempt scope delivery b rest :: K⟩
      ((⟨w, .unwinding payload, .attempt scope delivery b rest :: K⟩ : State ν).unwinding app
        payload) := by
  unfold unwinding
  dsimp only
  split
  · rename_i hcontain
    exact .panicked w payload scope delivery b rest K hcontain
  · rename_i hcontain
    exact .escape w payload scope delivery b rest K (Bool.eq_false_iff.2 hcontain)

/-- Every step is a move. -/
theorem move_step (s : State ν) : Move app s (s.step app) := by
  obtain ⟨w, control, K⟩ := s
  cases control with
  | run scope program =>
    cases program with
    | finish result => exact .finish w scope result K
    | panic payload => exact .panic w scope payload K
    | perform command next => exact .call w scope command next K
    | note entry next => exact .note w scope entry next K
    | «recall» next => exact .recall w scope next K
  | issue thread command =>
    show Move app _ (State.issue _ thread command)
    unfold issue
    split
    · rename_i hmode
      exact .direct w thread command K hmode
    · rename_i hmode
      exact .caught w thread command K hmode
    · rename_i hmode
      exact .spawned w thread command K hmode
  | perform scope operation => exact move_perform app w scope operation K
  | dispatch scope origin event =>
    have h : Move app ⟨w, .dispatch scope origin event, K⟩ _ := .dispatch w scope origin event K
    rwa [← w.nextDispatch_resolve app scope event.type] at h
  | deliver scope delivery handlers => exact move_deliver app w scope delivery handlers K
  | fail scope delivery b failure rest => exact move_fail app w scope delivery b failure rest K
  | stuck => exact .stuck w K
  | returned result =>
    cases K with
    | nil => exact .rest w _ _ rfl
    | cons frame K =>
      cases frame with
      | attempt scope delivery b rest =>
        cases result with
        | ok => exact .succeeded w scope delivery b rest K
        | error e => exact .failed w e scope delivery b rest K
      | _ => exact .rest w _ _ rfl
  | completed =>
    cases K with
    | nil => exact .rest w _ _ rfl
    | cons frame K =>
      cases frame with
      | firing scope outermost reply => exact .close w scope outermost reply K
      | reporting scope delivery b failure rest =>
        exact .reported w scope delivery b failure rest K
      | _ => exact .rest w _ _ rfl
  | answered reply =>
    cases K with
    | nil => exact .rest w _ _ rfl
    | cons frame K =>
      cases frame with
      | body scope next => exact .resume w reply scope next K
      | contained => exact .uncaught w reply K
      | joined => exact .wait w reply K
      | _ => exact .rest w _ _ rfl
  | unwinding payload =>
    cases K with
    | nil => exact .rest w _ _ rfl
    | cons frame K =>
      cases frame with
      | body scope next => exact .unwindBody w payload scope next K
      | attempt scope delivery b rest =>
        exact move_unwinding_attempt app w payload scope delivery b rest K
      | reporting scope delivery b failure rest =>
        exact .abandonReport w payload scope delivery b failure rest K
      | firing scope outermost reply => exact .abandon w payload scope outermost reply K
      | contained => exact .contain w payload K
      | joined => exact .unwindThread w payload K

end State

end EventDispatch
