import EventDispatch.Machine.Program

/-!
# Actions of a script

A script drives managers and gives observers their handlers. Its actions ask for operations; the
events that they fire are drafts, which may hold the place of the latest membership event that some
handler has seen. What handlers see and do they note in the journal, and the notes are where a draft
finds that event.
-/

set_option autoImplicit false

namespace EventDispatch.Script

/-- An event as a script writes it. -/
inductive Draft where
  | plain (index : Nat) (payload : String)
  | extending (index : Nat) (payload : String) (parent : Draft)
  | latestAdded
  | latestRemoved
  deriving DecidableEq, Repr, Inhabited

/-- How an event is handed over: by its own type, with its type erased, or to a dispatcher that
returns nothing. -/
inductive Handover where
  | typed
  | erased
  | dispatcher
  deriving DecidableEq, Repr, Inhabited

/-- What an action asks for. -/
inductive Request where
  | add (object : ObjectId)
  | addComponent (object : ObjectId)
  | remove (object : ObjectId)
  | removeComponent (object : ObjectId)
  | isRegistered (object : ObjectId)
  | fire (draft : Draft) (handover : Handover)
  | status
  deriving DecidableEq, Repr, Inhabited

/-- A request, the manager it is made to, and the way to carry it out. -/
structure Action where
  request : Request
  manager : ManagerId := 0
  mode : Mode := .direct
  deriving DecidableEq, Repr, Inhabited

/-- What comes of an action: the reply of the manager, or nothing because its event was to hold a
membership event and no handler has seen one yet. -/
inductive Outcome where
  | replied (reply : Reply)
  | nothingCaptured
  deriving DecidableEq, Repr, Inhabited

/-- What a handler notes: that it was called and what it was given, and that it has carried out an
action. -/
inductive Note where
  | heard (object : ObjectId) (binding : Nat) (phase : Phase) (part : Event) (detailed : Bool)
  | did (object : ObjectId) (action : Action) (outcome : Outcome)
  deriving DecidableEq, Repr, Inhabited

/-- The event part that a note says was received. -/
def Note.part? : Note → Option Event
  | .heard _ _ _ part _ => some part
  | .did .. => none

/-- The detailed text of what the handler received, if the note is to show it. -/
def Note.detail? (names : Naming) : Note → Option String
  | .heard _ _ phase part true => some (phase.wrap (part.detail names))
  | _ => none

/-- Whether a note says that the given binding of the given object was called. -/
def Note.isCallOf (object : ObjectId) (binding : Nat) : Note → Bool
  | .heard o b _ _ _ => o = object && b = binding
  | .did .. => false

/-- The notes of a script's handlers, each with the manager that was delivering. -/
abbrev Notes := Array (ManagerId × Note)

/-- How often the given binding of the given object was called, by whichever manager. -/
def Notes.calls (notes : Notes) (object : ObjectId) (binding : Nat) : Nat :=
  notes.countP fun n => n.2.isCallOf object binding

/-- The latest event of the given type that the notes say was received. -/
def Notes.latest? (notes : Notes) (t : EventType) : Option Event :=
  (notes.filterMap fun n => n.2.part?.filter (·.type = t)).back?

/-- The event of a draft, with the latest membership events put in their places. -/
def Draft.event? (notes : Notes) : Draft → Option Event
  | .plain i payload => some (.plain i payload)
  | .extending i payload parent => (parent.event? notes).map (.extending i payload)
  | .latestAdded => notes.latest? .observerAdded
  | .latestRemoved => notes.latest? .observerRemoved

/-- The operation that a request asks for, given the notes so far. -/
def Request.operation? (notes : Notes) : Request → Option Operation
  | .add o => some (.add o)
  | .addComponent o => some (.addComponent o)
  | .remove o => some (.remove o)
  | .removeComponent o => some (.removeComponent o)
  | .isRegistered o => some (.isRegistered o)
  | .fire draft _ => (draft.event? notes).map .fire
  | .status => some .status

/-- The command of an action, given the notes so far. -/
def Action.command? (notes : Notes) (a : Action) : Option Command :=
  (a.request.operation? notes).map fun operation =>
    { manager := a.manager, operation, mode := a.mode }

end EventDispatch.Script
