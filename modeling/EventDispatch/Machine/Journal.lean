import EventDispatch.Machine.Program
import EventDispatch.Observer.Member

/-!
# The journal

Everything that happens is entered into the journal in the order in which it happens, with the
thread and the manager that it happened on. Notes of handlers stand between the machine's own
entries. `Fact.line?` gives the log line of an entry; facts without a line are not logged.
-/

set_option autoImplicit false

namespace EventDispatch

/-- Why an event is dispatched: someone asked for it, the registry changed, or the handler with the
given number failed. -/
inductive Origin where
  | request
  | membership
  | report (handler : Nat)
  deriving DecidableEq, Repr, Inhabited

/-- A delivery under way: the number of the dispatch and its event. -/
structure Delivery where
  id : Nat
  event : Event
  deriving DecidableEq, Repr, Inhabited

/-- What can happen. -/
inductive Fact (ν : Type) where
  | noted (note : ν)
  | notAnnounced
  | described (observer : String)
  | built (observer : String) (before invoke after : Nat)
  | ignored (refusal : Refusal)
  | alreadyRegistered (observer : String)
  | registered (observer : String)
  | unregistered (observer : String)
  | cutShort (type : EventType) (maxDepth : Nat)
  | resolved (type : EventType) (handlers : Nat)
  | dispatched (origin : Origin) (delivery : Delivery)
  | attempted (delivery : Delivery) (handler : BoundHandler)
  | called (delivery : Delivery) (handler : BoundHandler) (part : Event)
  | succeeded (delivery : Delivery) (handler : BoundHandler)
  | failed (delivery : Delivery) (handler : BoundHandler) (failure : Failure)
  | undeliverable (delivery : Delivery) (handler : BoundHandler) (failure : Failure)
  | handlerError (delivery : Delivery) (handler : BoundHandler) (failure : Failure)
  | completed (delivery : Delivery)
  deriving Repr

/-- Where something happens: on which thread, and in a fire or an operation of which manager. -/
structure Scope where
  thread : ThreadId
  manager : ManagerId
  deriving DecidableEq, Repr, Inhabited

/-- An entry of the journal. -/
structure Entry (ν : Type) where
  scope : Scope
  fact : Fact ν
  deriving Repr

variable {ν : Type}

/-- The fields of a log line about a failed attempt. -/
def failureFields (names : Naming) (d : Delivery) (b : BoundHandler) (f : Failure) :
    List (String × Field) :=
  [("observer", .text b.descriptor.observer), ("handler", .text (b.descriptor.text names)),
    ("event", .text (names.eventType d.event.type)), ("error", .text f.message)]

/-- The log line of a fact. -/
def Fact.line? (names : Naming) : Fact ν → Option Line
  | .notAnnounced => some ⟨.debug, "Component type has no observer capability", []⟩
  | .described observer => some ⟨.debug, "Describing component", [("observer", .text observer)]⟩
  | .built observer before invoke after =>
    some ⟨.debug, "Built observer descriptor",
      [("observer", .text observer), ("before", .number before), ("invoke", .number invoke),
        ("after", .number after)]⟩
  | .ignored refusal =>
    some ⟨.debug, "Ignoring object that is not an observer",
      [("error", .text (refusal.message names))]⟩
  | .alreadyRegistered observer =>
    some ⟨.debug, "Observer already registered", [("observer", .text observer)]⟩
  | .registered observer =>
    some ⟨.debug, "Registering observer", [("observer", .text observer)]⟩
  | .unregistered observer =>
    some ⟨.debug, "Unregistered observer", [("observer", .text observer)]⟩
  | .cutShort type maxDepth =>
    some ⟨.warn, "Ancestor chain exceeds the configured depth; "
        ++ "handlers for deeper ancestors are skipped",
      [("event", .text (names.eventType type)), ("max_depth", .number maxDepth)]⟩
  | .resolved type handlers =>
    some ⟨.debug, "Resolved observers for event type",
      [("event", .text (names.eventType type)), ("handlers", .number handlers)]⟩
  | .dispatched _ delivery =>
    some ⟨.debug, "Dispatching event", [("event", .text (names.eventType delivery.event.type))]⟩
  | .undeliverable delivery handler failure =>
    some ⟨.warn, "Could not deliver event to observer",
      failureFields names delivery handler failure⟩
  | .handlerError delivery handler failure =>
    some ⟨.error, "Error invoking observer", failureFields names delivery handler failure⟩
  | _ => none

end EventDispatch
