import EventDispatch.Proofs.Registry.Coherence

/-!
# The roster

A change of a registry is announced by an event that the manager dispatches itself, and the dispatch
begins before anything else happens. Replaying the announcements that a manager has begun to
dispatch, from the empty list on, therefore gives the registered objects in the order of the
registry (`Reachable.roster_eq`).
-/

set_option autoImplicit false

namespace EventDispatch

variable {ν : Type} {app : Application ν}

/-! ## Dispatches that have begun -/

/-- A dispatch that has begun: where, why and of which event. -/
structure Begun where
  scope : Scope
  origin : Origin
  event : Event
  deriving DecidableEq, Repr

/-- The dispatch that an entry of the journal is about. -/
def Entry.begun? : Entry ν → Option Begun
  | ⟨scope, .dispatched origin delivery⟩ => some ⟨scope, origin, delivery.event⟩
  | _ => none

/-- The dispatch that a control is about to enter into the journal. -/
def Control.begun? : Control ν → Option Begun
  | .dispatch scope origin event => some ⟨scope, origin, event⟩
  | _ => none

/-- The dispatches that have begun, oldest first. -/
def State.dispatches (s : State ν) : List Begun :=
  s.world.read Entry.begun? ++ s.control.begun?.toList

theorem skipsRoutine_begun? : World.SkipsRoutine (Entry.begun? : Entry ν → Option Begun) := by
  intro scope fact h
  cases fact with
  | dispatched => exact Bool.noConfusion h
  | _ => rfl

theorem begun?_eq_none_of_isOutcome {control : Control ν} (h : control.isOutcome = true) :
    control.begun? = none := by
  cases control with
  | dispatch => exact Bool.noConfusion h
  | _ => rfl

/-- A move enters the dispatch that the control was about to enter, and no other. -/
theorem Move.read_begun? {s t : State ν} (h : Move app s t) :
    t.world.read Entry.begun? = s.dispatches := by
  have hf : World.SkipsRoutine (Entry.begun? : Entry ν → Option Begun) := skipsRoutine_begun?
  cases h with
  | dispatch w scope origin event K => exact w.read_launch scope hf app origin event
  | kept _ _ _ _ _ _ _ _ hfs | stall _ _ _ _ _ _ _ hfs =>
    simp [State.dispatches, World.read_chronicle _ _ hf hfs, Control.begun?]
  | joined _ _ _ _ _ _ _ _ _ _ _ hfs =>
    simp [State.dispatches, World.read_join _ _ hf hfs, Control.begun?]
  | parted _ _ _ _ _ _ _ _ _ hfs =>
    simp [State.dispatches, World.read_part _ _ hf hfs, Control.begun?]
  | spawned w thread command K => exact (List.append_nil _).symm
  | rest w control K hended =>
    simp [State.dispatches, begun?_eq_none_of_isOutcome hended]
  | _ => simp [State.dispatches, Control.begun?, Entry.begun?]

theorem Move.dispatches {s t : State ν} (h : Move app s t) :
    t.dispatches = s.dispatches ++ t.control.begun?.toList := by
  rw [State.dispatches, h.read_begun?]

/-- The next command of a session begins no dispatch of its own accord. -/
theorem State.dispatches_start {s : State ν} {r : Except Payload Reply} (hr : s.result? = some r)
    (command : Command) : (State.start s.world command).dispatches = s.dispatches := by
  obtain ⟨w, control, K⟩ := s
  cases control with
  | dispatch => simp [State.result?] at hr
  | _ => rfl

/-! ## Replaying the announcements -/

/-- The list of registered objects after the change that an event announces. -/
def Event.enroll (objects : List ObjectId) : Event → List ObjectId
  | .observerAdded o _ => objects ++ [o]
  | .observerRemoved o _ => objects.erase o
  | _ => objects

/-- The list of a manager's registered objects after a dispatch has begun. Handlers may fire an
event that looks like an announcement; it changes nothing. -/
def Begun.enroll (m : ManagerId) (objects : List ObjectId) (d : Begun) : List ObjectId :=
  if d.origin = .membership ∧ d.scope.manager = m then d.event.enroll objects else objects

/-- The objects that a manager has announced as added and not as removed since, in the order in
which they were added last. -/
def State.roster (m : ManagerId) (s : State ν) : List ObjectId :=
  s.dispatches.foldl (Begun.enroll m) []

theorem Move.roster {s t : State ν} (h : Move app s t) (m : ManagerId) :
    t.roster m = t.control.begun?.toList.foldl (Begun.enroll m) (s.roster m) := by
  rw [State.roster, h.dispatches, List.foldl_append, State.roster]

/-- The announcements give the registered objects in the order of the registry. -/
theorem Reachable.roster_eq {s : State ν} (hs : Reachable app s) (m : ManagerId) :
    s.roster m = (s.world.manager m).registry.objects := by
  apply hs.induction (P := fun s => s.roster m = (s.world.manager m).registry.objects)
  · intro command
    rfl
  · intro s t _ hmove h
    rw [hmove.roster, h]
    -- Only changes of a registry are announced, and the announcement says what the change was.
    cases hmove with
    | joined w scope operation o type fs =>
      simp only [World.manager_enter, World.manager_join]
      by_cases hm : m = scope.manager
      · subst hm
        simp [Control.begun?, Begun.enroll, Event.enroll, Registry.objects]
      · simp [Control.begun?, Begun.enroll, hm, Ne.symm hm]
    | parted w scope operation o member fs =>
      simp only [World.manager_enter, World.manager_part]
      by_cases hm : m = scope.manager
      · subst hm
        simp [Control.begun?, Begun.enroll, Event.enroll, Registry.objects_without]
      · simp [Control.begun?, Begun.enroll, hm, Ne.symm hm]
    | spawned => rfl
    | rest w control K hended =>
      rw [begun?_eq_none_of_isOutcome hended]
      rfl
    | fire => simp [Control.begun?, Begun.enroll]
    | report => simp [Control.begun?, Begun.enroll]
    | _ => simp [Control.begun?]
  · intro s r command _ hr h
    rw [State.roster, State.dispatches_start hr]
    exact h

end EventDispatch
