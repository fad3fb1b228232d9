import EventDispatch.Script.Action

/-!
# Scripted handlers

A scripted handler is a list of clauses. Each clause says what to do and on which of the handler's
calls to do it: for which objects, and from which call on for how many calls. `Handler.program` is
the program of a scripted handler; it counts its earlier calls from the notes.
-/

set_option autoImplicit false

namespace EventDispatch.Script

/-- What a clause does: carry out an action, return an error, or panic. An action that propagates
ends the handler with an error if the manager refuses it. -/
inductive Instruction where
  | act (action : Action) (propagate : Bool)
  | fail (error : ErrorChain)
  | panic (payload : Payload)
  deriving DecidableEq, Repr, Inhabited

/-- An instruction and the calls on which it counts: none of the first `skip`, only the first
`times` if given, and only for the objects `only` if given. -/
structure Clause where
  instruction : Instruction
  skip : Nat := 0
  times : Option Nat := none
  only : Option (List ObjectId) := none
  deriving DecidableEq, Repr, Inhabited

/-- Whether a clause counts for an object that was called `calls` times before. -/
def Clause.applies (c : Clause) (object : ObjectId) (calls : Nat) : Bool :=
  c.skip ≤ calls
    && c.times.all (calls < ·)
    && c.only.all (·.contains object)

/-- A scripted handler: what it is bound to, whether its notes show what it receives in detail, and
its clauses. -/
structure Handler where
  binding : Binding
  detailed : Bool := false
  clauses : List Clause := []
  deriving DecidableEq, Repr, Inhabited

/-- Carries out an action and goes on with its outcome. -/
def Action.thenDo (a : Action) (next : Outcome → Program Note) : Program Note :=
  .recall fun notes =>
    match a.command? notes with
    | some command => .perform command fun reply => next (.replied reply)
    | none => next .nothingCaptured

/-- The error with which a handler ends after an outcome, if it propagates refusals. -/
def Outcome.error? (names : Naming) (propagate : Bool) : Outcome → Option ErrorChain
  | .replied (.refused refusal) => if propagate then some ⟨refusal.message names, []⟩ else none
  | _ => none

/-- Carries out the clauses that count, in order, up to the first that ends the handler. -/
def Clause.program (names : Naming) (object : ObjectId) (calls : Nat) :
    List Clause → Program Note
  | [] => .finish (.ok ())
  | c :: rest =>
    if c.applies object calls then
      match c.instruction with
      | .fail error => .finish (.error error)
      | .panic payload => .panic payload
      | .act action propagate =>
        action.thenDo fun outcome =>
          .note (.did object action outcome)
            (match outcome.error? names propagate with
              | some error => .finish (.error error)
              | none => Clause.program names object calls rest)
    else Clause.program names object calls rest

/-- The program of a scripted handler: it notes the call and then carries out its clauses. -/
def Handler.program (names : Naming) (object : ObjectId) (index : Nat) (part : Event)
    (handler : Handler) : Program Note :=
  .recall fun notes =>
    .note (.heard object index handler.binding.phase part handler.detailed)
      (Clause.program names object (Notes.calls notes object index) handler.clauses)

/-- An observer type of a script. -/
structure Role where
  name : String
  announced : Bool
  handlers : List Handler
  deriving DecidableEq, Repr, Inhabited

/-- The observer type that a role stands for. -/
def Role.observerType (r : Role) : ObserverType where
  name := r.name
  announced := r.announced
  bindings := r.handlers.map (·.binding)

/-- What a script is about: the event types, the managers' settings, and the role of each object,
none for an object that is no observer. -/
structure Cast where
  hierarchy : Hierarchy
  names : Naming
  managers : List Settings
  roles : List (Option Role)

namespace Cast

/-- The role of an object. -/
def role? (c : Cast) (o : ObjectId) : Option Role := c.roles[o]?.join

/-- The application that a script runs. -/
def application (c : Cast) : Application Note where
  hierarchy := c.hierarchy
  names := c.names
  settings := fun m => c.managers.getD m {}
  observerType? := fun o => (c.role? o).map (·.observerType)
  program := fun _ object index part =>
    match (c.role? object).bind (·.handlers[index]?) with
    | some handler => handler.program c.names object index part
    | none => .finish (.ok ())

end Cast

end EventDispatch.Script
