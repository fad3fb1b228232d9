import EventDispatch.Machine.Journal
import EventDispatch.Observer.Plan

/-!
# The world of the machine

The world holds, for every manager, its registry and the plans that it has resolved since the
registry last changed; for every thread and manager with a fire under way, the numbers of the
handlers that have failed in it (the guard of that fire); the next free numbers; and the journal.
The operations here change the world without running a handler: registering and removing objects,
and resolving the plan of an event type.
-/

set_option autoImplicit false

namespace EventDispatch

/-- The state of one manager. -/
structure ManagerState where
  registry : Registry := []
  cache : Assoc EventType Plan := ∅
  deriving DecidableEq, Repr, Inhabited

/-- The world of the machine. -/
structure World (ν : Type) where
  managers : Assoc ManagerId ManagerState := ∅
  guards : Assoc Scope (List Nat) := ∅
  nextHandler : Nat := 0
  nextThread : ThreadId := 1
  nextDispatch : Nat := 0
  journal : Array (Entry ν) := #[]

namespace World

variable {ν : Type}

instance : Inhabited (World ν) := ⟨{}⟩

/-- The state of a manager. -/
def manager (w : World ν) (m : ManagerId) : ManagerState := (w.managers.find? m).getD {}

/-- The world with another state of a manager. -/
def setManager (w : World ν) (m : ManagerId) (state : ManagerState) : World ν :=
  { w with managers := w.managers.insert m state }

/-- The world with one more entry in the journal. -/
def record (w : World ν) (scope : Scope) (fact : Fact ν) : World ν :=
  { w with journal := w.journal.push ⟨scope, fact⟩ }

/-- The notes in the journal, oldest first, each with the manager that was delivering. -/
def notes (w : World ν) : Array (ManagerId × ν) :=
  w.journal.filterMap fun e => match e.fact with
    | .noted note => some (e.scope.manager, note)
    | _ => none

/-- The guard of the fires under way in a scope, if there are any. -/
def guard? (w : World ν) (scope : Scope) : Option (List Nat) := w.guards.find? scope

/-- The world with a guard set for a scope. -/
def setGuard (w : World ν) (scope : Scope) (failed : List Nat) : World ν :=
  { w with guards := w.guards.insert scope failed }

/-- The world without a guard for a scope. -/
def dropGuard (w : World ν) (scope : Scope) : World ν :=
  { w with guards := w.guards.erase scope }

/-- Whether a handler has failed before in the fires under way in a scope. -/
def hasFailed (w : World ν) (scope : Scope) (id : Nat) : Bool :=
  ((w.guard? scope).getD []).contains id

/-- The world in which a handler counts as failed in a scope. -/
def addFailure (w : World ν) (scope : Scope) (id : Nat) : World ν :=
  w.setGuard scope ((w.guard? scope).getD [] ++ [id])

/-- The world after a change of the registry: the resolved plans are void. -/
def setRegistry (w : World ν) (m : ManagerId) (registry : Registry) : World ν :=
  w.setManager m { registry, cache := ∅ }

/-- The outcome of an attempt to register or remove an object: nothing has changed, the bindings of
the object are refused or cannot be decided about, or the change has been made. -/
inductive Change where
  | none
  | refused (refusal : Refusal)
  | undecided
  | made (observerType : String)
  deriving DecidableEq, Repr, Inhabited

/-- Registers an object of the observer type `type`, unless its bindings are refused or it is
registered already. The handlers of the new member get fresh numbers, and these are used up even if
the object turns out to be registered. Nothing is done if the check of the bindings gives no
answer. -/
def register (app : Application ν) (w : World ν) (scope : Scope) (o : ObjectId)
    (type : ObserverType) : Change × World ν :=
  match app.check scope.manager type with
  | none => (.undecided, w)
  | some (.error refusal) =>
    if refusal.isNotAnObserver then (.none, w.record scope (.ignored refusal))
    else (.refused refusal, w)
  | some (.ok ()) =>
    let member := Member.build o type.name type.bindings w.nextHandler
    -- The numbers are used up before the registry is asked.
    let w := { w with nextHandler := w.nextHandler + type.bindings.length }
    let w := w.record scope
      (.built type.name member.before.size member.invoke.size member.after.size)
    let registry := (w.manager scope.manager).registry
    if registry.holds o then (.none, w.record scope (.alreadyRegistered type.name))
    else
      (.made type.name,
        (w.record scope (.registered type.name)).setRegistry scope.manager (registry ++ [member]))

/-- Registers an object as an observer. An object without an observer type is taken as a component
of a type that is not announced. -/
def add (app : Application ν) (w : World ν) (scope : Scope) (o : ObjectId) : Change × World ν :=
  match app.observerType? o with
  | some type => w.register app scope o type
  | none => (.none, w.record scope .notAnnounced)

/-- Registers an object as a component, if its type is announced. -/
def addComponent (app : Application ν) (w : World ν) (scope : Scope) (o : ObjectId) :
    Change × World ν :=
  match (app.observerType? o).filter (·.announced) with
  | some type => (w.record scope (.described type.name)).register app scope o type
  | none => (.none, w.record scope .notAnnounced)

/-- Removes an object, if it is registered. -/
def remove (w : World ν) (scope : Scope) (o : ObjectId) : Change × World ν :=
  let registry := (w.manager scope.manager).registry
  match registry.member? o with
  | some member =>
    (.made member.observerType,
      (w.record scope (.unregistered member.observerType)).setRegistry scope.manager
        (registry.without o))
  | none => (.none, w)

/-- The plan for an event type, resolved and kept if it is not at hand. -/
def resolve (app : Application ν) (w : World ν) (scope : Scope) (t : EventType) :
    Plan × World ν :=
  let state := w.manager scope.manager
  match state.cache.find? t with
  | some plan => (plan, w)
  | none =>
    let maxDepth := app.maxDepth scope.manager
    let plan := Plan.build app.hierarchy maxDepth state.registry t
    -- The warning belongs to the resolution: a plan that is at hand gives none.
    let w := if app.hierarchy.exceeds maxDepth t then w.record scope (.cutShort t maxDepth) else w
    let w := w.record scope (.resolved t plan.toList.length)
    (plan, w.setManager scope.manager { state with cache := state.cache.insert t plan })

@[simp] theorem manager_setManager_self (w : World ν) (m : ManagerId) (s : ManagerState) :
    (w.setManager m s).manager m = s := by simp [manager, setManager]

theorem manager_setManager_of_ne {m m' : ManagerId} (hne : m' ≠ m) (w : World ν)
    (s : ManagerState) : (w.setManager m s).manager m' = w.manager m' := by
  simp [manager, setManager, Assoc.find?_insert_of_ne hne]

@[simp] theorem manager_record (w : World ν) (scope : Scope) (f : Fact ν) (m : ManagerId) :
    (w.record scope f).manager m = w.manager m := rfl

@[simp] theorem guard?_record (w : World ν) (scope scope' : Scope) (f : Fact ν) :
    (w.record scope f).guard? scope' = w.guard? scope' := rfl

@[simp] theorem guard?_setGuard_self (w : World ν) (scope : Scope) (failed : List Nat) :
    (w.setGuard scope failed).guard? scope = some failed := by simp [guard?, setGuard]

@[simp] theorem guard?_dropGuard_self (w : World ν) (scope : Scope) :
    (w.dropGuard scope).guard? scope = none := by simp [guard?, dropGuard]

end World

end EventDispatch
