import EventDispatch.Event.Walk
import EventDispatch.Handler.Descriptor
import EventDispatch.Handler.Failure

/-!
# Event values

A value of an application's type carries a payload and may embed a value of its parent type, so that
a handler bound to an ancestor can be given the part it asks for (`Event.part?`). The embedded
values need not agree with the declared types. The manager's own events say which observer joined or
left, or which handler failed on which event and why.
-/

set_option autoImplicit false

namespace EventDispatch

/-- The identity of an object that may observe. -/
abbrev ObjectId := Nat

/-- An event value. -/
inductive Event where
  | plain (index : Nat) (payload : String)
  | extending (index : Nat) (payload : String) (parent : Event)
  | observerAdded (observer : ObjectId) (observerType : String)
  | observerRemoved (observer : ObjectId) (observerType : String)
  | observerFailed (observer : ObjectId) (handler : Descriptor) (event : Event) (cause : Failure)
  deriving DecidableEq, Repr, Inhabited

namespace Event

/-- The concrete type of a value. -/
def type : Event → EventType
  | .plain i _ => .custom i
  | .extending i _ _ => .custom i
  | .observerAdded .. => .observerAdded
  | .observerRemoved .. => .observerRemoved
  | .observerFailed .. => .observerFailed

/-- The embedded parent value. -/
def parent? : Event → Option Event
  | .extending _ _ parent => some parent
  | _ => none

/-- The value and the values embedded in it, outermost first. -/
def parts : Event → List Event
  | .extending i d parent => .extending i d parent :: parts parent
  | e => [e]

/-- The values embedded in a value, outermost first. -/
def embedded (e : Event) : List Event := e.parts.tail

/-- The outermost part of exactly the type `t` among the first `limit` parts. -/
def ancestor? (limit : Nat) (e : Event) (t : EventType) : Option Event :=
  (e.parts.take limit).find? (·.type = t)

/-- The part that a handler bound to `t` is given: the whole event for the universal root. -/
def part? (limit : Nat) (e : Event) (t : EventType) : Option Event :=
  if t = .any then some e else e.ancestor? limit t

/-- Whether the declared type of the value is `t` or descends from it. -/
def isA (h : Hierarchy) (limit : Nat) (e : Event) (t : EventType) : Bool := h.isA limit e.type t

/-- Whether the event reports a failure, directly or by descent. -/
def isFailureReport (h : Hierarchy) (limit : Nat) (e : Event) : Bool :=
  e.isA h limit .observerFailed

/-- Whether the event is about an object joining or leaving. -/
def concerns (o : ObjectId) : Event → Bool
  | .observerAdded observer _ => observer = o
  | .observerRemoved observer _ => observer = o
  | _ => false

/-- The detailed text of a value. -/
def detail (names : Naming) : Event → String
  | .plain i payload => (names.form i).render none payload
  | .extending i payload parent => (names.form i).render (some (parent.detail names)) payload
  | .observerAdded _ observerType =>
    Text.record "ObserverAdded" [("observer", Text.quote observerType)]
  | .observerRemoved _ observerType =>
    Text.record "ObserverRemoved" [("observer", Text.quote observerType)]
  | .observerFailed _ handler event cause =>
    Text.record "ObserverFailed"
      [("handler", handler.detail names), ("event", event.detail names), ("cause", cause.detail)]

@[simp] theorem head?_parts (e : Event) : e.parts.head? = some e := by cases e <;> simp [parts]

theorem type_ne_any (e : Event) : e.type ≠ .any := by cases e <;> simp [type]

@[simp] theorem part?_any (limit : Nat) (e : Event) : e.part? limit .any = some e := rfl

end Event

end EventDispatch
