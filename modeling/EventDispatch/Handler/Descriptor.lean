import EventDispatch.Event.Hierarchy
import EventDispatch.Text

/-!
# Phases, names, and descriptions of bound handlers

An event is delivered in three phases. The handlers of an earlier phase run before those of a later
one, whatever observer they belong to. The library tells event types apart by identity; their names,
and the way in which values of the application's types are shown, are the application's own and come
with a `Naming`. A description names the observer type and the handler, and states the phase and the
event type that the handler is bound for. It is what reports and log lines say about a handler.
-/

set_option autoImplicit false

namespace EventDispatch

/-! ## Phases -/

/-- A delivery phase. -/
inductive Phase where
  | before
  | invoke
  | after
  deriving DecidableEq, Repr, Inhabited

namespace Phase

/-- All phases in delivery order. -/
def all : List Phase := [.before, .invoke, .after]

/-- The word for a phase in messages. -/
def word : Phase → String
  | .before => "before"
  | .invoke => "invoke"
  | .after => "after"

/-- The name of a phase in detailed texts. -/
def name : Phase → String
  | .before => "Before"
  | .invoke => "Invoke"
  | .after => "After"

/-- The text of what a handler of the phase receives: the first and the last phase wrap the
value. -/
def wrap : Phase → String → String
  | .before, text => "BeforeEvent(" ++ text ++ ")"
  | .invoke, text => text
  | .after, text => "AfterEvent(" ++ text ++ ")"

theorem mem_all (p : Phase) : p ∈ all := by cases p <;> decide

end Phase

/-! ## Names -/

/-- How the values of an application's event type are shown: with the bare payload after a label, or
as a record with a quoted payload and, for a type that embeds its parent, a part for the parent. -/
inductive ValueForm where
  | labelled (label : String)
  | record (label : String) (parentPart : Option String) (payloadPart : String)
  deriving Repr, Inhabited

/-- The text of a value with the given payload and the text of its embedded parent. -/
def ValueForm.render (parent : Option String) (payload : String) : ValueForm → String
  | .labelled label => Text.tuple label [payload]
  | .record label parentPart payloadPart =>
    let parentParts := match parentPart, parent with
      | some part, some text => [(part, text)]
      | _, _ => []
    Text.record label (parentParts ++ [(payloadPart, Text.quote payload)])

/-- The names of event types and the forms of the application's values. -/
structure Naming where
  eventType : EventType → String
  form : Nat → ValueForm

/-- The detailed text of an event type. -/
def Naming.detail (names : Naming) (t : EventType) : String :=
  Text.tuple "EventType" [Text.quote (names.eventType t)]

/-! ## Descriptions -/

/-- The description of a bound handler. -/
structure Descriptor where
  observer : String
  handler : String
  phase : Phase
  eventType : EventType
  deriving DecidableEq, Repr, Inhabited

namespace Descriptor

/-- The short text: the handler, then phase and event type in brackets. -/
def text (names : Naming) (d : Descriptor) : String :=
  d.handler ++ " [" ++ d.phase.word ++ " " ++ names.eventType d.eventType ++ "]"

/-- The detailed text. -/
def detail (names : Naming) (d : Descriptor) : String :=
  Text.record "HandlerDescriptor"
    [("observer", Text.quote d.observer), ("handler", Text.quote d.handler),
      ("phase", d.phase.name), ("event_type", names.detail d.eventType)]

end Descriptor

end EventDispatch
