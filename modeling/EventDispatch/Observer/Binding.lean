import EventDispatch.Event.Walk
import EventDispatch.Handler.Descriptor

/-!
# Bindings and the rules of registration

An observer type binds its handlers one after the other. Two rules hold: no two handlers of one type
share phase and event type, and the chain of every bound event type ends within the depth bound. The
first binding that breaks a rule decides the refusal, whatever is bound after it; a list without
bindings is refused because nothing observes. Chains are counted with a counter, and if that is too
small for a chain the check comes to no answer.
-/

set_option autoImplicit false

namespace EventDispatch

/-- One binding of an observer type: the phase, the event type and the name of the handler. -/
structure Binding where
  phase : Phase
  eventType : EventType
  handler : String
  deriving DecidableEq, Repr, Inhabited

/-- A rule of registration that a binding breaks. -/
inductive Violation where
  | duplicateHandler (phase : Phase) (eventType : EventType) (previous : String)
  | unresolvableEventType (eventType : EventType) (maxDepth : Nat)
  deriving DecidableEq, Repr, Inhabited

namespace Violation

/-- The message of a violation. -/
def message (names : Naming) : Violation → String
  | .duplicateHandler phase eventType previous =>
    phase.word ++ " handler for " ++ names.eventType eventType
      ++ " is already bound by " ++ previous
  | .unresolvableEventType eventType maxDepth =>
    "ancestor chain of " ++ names.eventType eventType ++ " exceeds " ++ toString maxDepth
      ++ " levels (cyclic parent declaration?)"

/-- The detailed text of a violation. -/
def detail (names : Naming) : Violation → String
  | .duplicateHandler phase eventType previous =>
    Text.record "DuplicateHandler"
      [("phase", phase.name), ("event_type", names.detail eventType),
        ("previous", Text.quote previous)]
  | .unresolvableEventType eventType maxDepth =>
    Text.record "UnresolvableEventType"
      [("event_type", names.detail eventType), ("max_depth", toString maxDepth)]

end Violation

/-- Why an object is not registered: its type binds nothing, or a binding breaks a rule. -/
inductive Refusal where
  | notAnObserver (observer : String)
  | invalidObserver (observer handler : String) (violation : Violation)
  deriving DecidableEq, Repr, Inhabited

namespace Refusal

/-- Whether the refusal only says that the object observes nothing. -/
def isNotAnObserver : Refusal → Bool
  | .notAnObserver _ => true
  | .invalidObserver .. => false

/-- The message of a refusal. -/
def message (names : Naming) : Refusal → String
  | .notAnObserver observer =>
    observer ++ " binds no observer handlers; bind at least one in Observer::observe, "
      ++ "e.g. registrar.on(Self::on_ping)"
  | .invalidObserver observer handler violation =>
    "invalid observer handler " ++ handler ++ " on " ++ observer ++ ": " ++ violation.message names

/-- The detailed text of a refusal. -/
def detail (names : Naming) : Refusal → String
  | .notAnObserver observer => Text.record "NotAnObserver" [("observer", Text.quote observer)]
  | .invalidObserver observer handler violation =>
    Text.record "InvalidObserver"
      [("observer", Text.quote observer), ("handler", Text.quote handler),
        ("violation", violation.detail names)]

end Refusal

/-- What the rules say of a binding: it fits, or it breaks a rule, or nothing, because the count of
its chain has come to no result. -/
inductive Verdict where
  | fits
  | breaks (violation : Violation)
  | undecided
  deriving DecidableEq, Repr, Inhabited

namespace Binding

variable (c : Counter) (h : Hierarchy) (maxDepth : Nat)

/-- Whether two bindings claim the same phase and event type. -/
def clashes (a b : Binding) : Bool := a.phase = b.phase && a.eventType = b.eventType

/-- What the rules say of `b` after the bindings `earlier`, all of which fit. -/
def verdict (earlier : List Binding) (b : Binding) : Verdict :=
  -- A binding that breaks both rules is refused as a duplicate.
  match earlier.find? (·.clashes b) with
  | some previous => .breaks (.duplicateHandler b.phase b.eventType previous.handler)
  | none =>
    match h.count c maxDepth b.eventType with
    | .length _ => .fits
    | .tooLong => .breaks (.unresolvableEventType b.eventType maxDepth)
    | .overflow | .counting .. => .undecided

/-- The first binding that does not fit, and what the rules say of it. -/
def firstMisfit? (earlier : List Binding) : List Binding → Option (Binding × Verdict)
  | [] => none
  | b :: rest =>
    match b.verdict c h maxDepth earlier with
    | .fits => firstMisfit? (earlier ++ [b]) rest
    | verdict => some (b, verdict)

/-- Checks the bindings of an observer type by the rules of registration. There is no answer if
nothing can be said of the first binding that does not fit. -/
def check (observer : String) (bindings : List Binding) : Option (Except Refusal Unit) :=
  match firstMisfit? c h maxDepth [] bindings with
  | some (b, .breaks v) => some (.error (.invalidObserver observer b.handler v))
  | some _ => none
  | none =>
    some (if bindings.isEmpty then .error (.notAnObserver observer) else .ok ())

end Binding

end EventDispatch
