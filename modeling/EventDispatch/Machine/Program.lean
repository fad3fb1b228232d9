import EventDispatch.Event.Value
import EventDispatch.Observer.Binding
import EventDispatch.Settings

/-!
# What handlers do

A handler is a program. It may ask a manager for an operation and go on with the reply, leave a note
in the journal, look up the notes left so far, and end with a result or a panic. The notes are all
the memory that handlers have: whatever a handler shall know of earlier calls it has to read there.
Each note comes with the manager that was delivering when it was left.
-/

set_option autoImplicit false

namespace EventDispatch

/-- The identity of a manager. -/
abbrev ManagerId := Nat

/-- The identity of a thread. -/
abbrev ThreadId := Nat

/-- An operation of a manager. An object is registered and removed either as the observer that its
type makes it or as a component, whose type has to be announced. -/
inductive Operation where
  | add (object : ObjectId)
  | addComponent (object : ObjectId)
  | remove (object : ObjectId)
  | removeComponent (object : ObjectId)
  | isRegistered (object : ObjectId)
  | fire (event : Event)
  | status
  deriving DecidableEq, Repr, Inhabited

/-- How an operation is carried out: in place, in place with a panic turned into a reply, or on a
thread of its own that is waited for. -/
inductive Mode where
  | direct
  | caught
  | spawned
  deriving DecidableEq, Repr, Inhabited

/-- An operation, the manager it is asked of, and the way to carry it out. -/
structure Command where
  manager : ManagerId := 0
  operation : Operation
  mode : Mode := .direct
  deriving DecidableEq, Repr, Inhabited

/-- The reply to an operation. -/
inductive Reply where
  | flag (value : Bool)
  | refused (refusal : Refusal)
  | delivered (event : Event)
  | status (observers cachedTypes : Nat)
  | panicked (payload : Payload)
  deriving DecidableEq, Repr, Inhabited

/-- The program of a handler that leaves notes of type `ν`. -/
inductive Program (ν : Type) where
  | finish (result : Except ErrorChain Unit)
  | panic (payload : Payload)
  | perform (command : Command) (next : Reply → Program ν)
  | note (entry : ν) (next : Program ν)
  | recall (next : Array (ManagerId × ν) → Program ν)

instance {ν : Type} : Inhabited (Program ν) := ⟨.finish (.ok ())⟩

/-- A type of observers: its name, whether it is announced for components, and its bindings. -/
structure ObserverType where
  name : String
  announced : Bool
  bindings : List Binding
  deriving DecidableEq, Repr, Inhabited

/-- The detailed text of the announcement that admits objects of a type as components. -/
def ObserverType.announcement (t : ObserverType) : String :=
  Text.record "ObserverCapability" [("observer_type", Text.quote t.name)]

/-- What the machine is run with: the declared parents and the names of the event types, the
settings of each manager, the observer type of each object that has one, and the program of each
handler of an object, given the manager that delivers and the part of the event. -/
structure Application (ν : Type) where
  hierarchy : Hierarchy
  names : Naming
  settings : ManagerId → Settings
  observerType? : ObjectId → Option ObserverType
  program : ManagerId → (object : ObjectId) → (binding : Nat) → (part : Event) → Program ν

/-- The depth bound of a manager. -/
abbrev Application.maxDepth {ν : Type} (app : Application ν) (m : ManagerId) : Nat :=
  (app.settings m).maxDepth

/-- Checks a type of observers by the rules of registration of a manager. Chains are counted in
words. -/
abbrev Application.check {ν : Type} (app : Application ν) (m : ManagerId) (type : ObserverType) :
    Option (Except Refusal Unit) :=
  Binding.check .word app.hierarchy (app.maxDepth m) type.name type.bindings

end EventDispatch
