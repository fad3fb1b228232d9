import EventDispatch.Assoc
import EventDispatch.Event.Value
import EventDispatch.Observer.Binding

/-!
# Registered observers

A registered observer keeps, for each phase, a table from event types to its handlers. For an event
type it offers at most one handler per phase: the one bound to the first type of the walk from that
type upwards (`Member.handler?`). Every registration makes its handlers anew, with numbers that no
handler had before, so a handler of an earlier registration of the same object is another one.
-/

set_option autoImplicit false

namespace EventDispatch

/-- A handler bound to one observer object by one registration. -/
structure BoundHandler where
  id : Nat
  observer : ObjectId
  binding : Nat
  descriptor : Descriptor
  deriving DecidableEq, Repr, Inhabited

/-- The event type that a handler is bound to. -/
def BoundHandler.eventType (b : BoundHandler) : EventType := b.descriptor.eventType

/-- The table of the handlers of one phase. -/
abbrev HandlerTable := Assoc EventType BoundHandler

/-- A registered observer. -/
structure Member where
  observer : ObjectId
  observerType : String
  before : HandlerTable := ∅
  invoke : HandlerTable := ∅
  after : HandlerTable := ∅
  deriving DecidableEq, Repr, Inhabited

namespace Member

/-- The table of a phase. -/
def table (m : Member) : Phase → HandlerTable
  | .before => m.before
  | .invoke => m.invoke
  | .after => m.after

/-- The member with a handler entered into the table of its phase. -/
def bind (m : Member) (b : BoundHandler) : Member :=
  match b.descriptor.phase with
  | .before => { m with before := m.before.insert b.eventType b }
  | .invoke => { m with invoke := m.invoke.insert b.eventType b }
  | .after => { m with after := m.after.insert b.eventType b }

/-- The handlers that a registration makes, numbered from `firstId` on. -/
def handlers (observer : ObjectId) (observerType : String) (bindings : List Binding)
    (firstId : Nat) : List BoundHandler :=
  bindings.zipIdx.map fun (b, i) =>
    { id := firstId + i, observer, binding := i,
      descriptor := ⟨observerType, b.handler, b.phase, b.eventType⟩ }

/-- The member that a registration makes of an object of the given type. -/
def build (observer : ObjectId) (observerType : String) (bindings : List Binding)
    (firstId : Nat) : Member :=
  (handlers observer observerType bindings firstId).foldl bind { observer, observerType }

/-- The most specific handler of a phase for an event type. -/
def handler? (m : Member) (h : Hierarchy) (maxDepth : Nat) (p : Phase) (t : EventType) :
    Option BoundHandler :=
  if (m.table p).entries.isEmpty then none
  else h.search maxDepth t (m.table p).find?

end Member

/-- The registered observers of a manager, in the order of registration. -/
abbrev Registry := List Member

namespace Registry

/-- The registered objects, in the order of registration. -/
def objects (r : Registry) : List ObjectId := r.map (·.observer)

/-- The member of an object. -/
def member? (r : Registry) (o : ObjectId) : Option Member := r.find? (·.observer = o)

/-- Whether an object is registered. -/
def holds (r : Registry) (o : ObjectId) : Bool := (r.member? o).isSome

/-- The registry without an object. -/
def without (r : Registry) (o : ObjectId) : Registry := r.eraseP (·.observer = o)

end Registry

end EventDispatch
