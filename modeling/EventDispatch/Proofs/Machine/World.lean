import EventDispatch.Machine.World

/-!
# What the operations on the world change

Each operation on the world touches few of its parts. The lemmas here say which, part by part, so
that no later proof opens an operation. An attempt to register or to remove an object either leaves
all managers as they are (`World.chronicle`) or changes the registry of one of them and empties its
cache (`registers_add`, `registers_addComponent`, `removes_remove`); resolving a plan changes one
cache at one event type (`resolves_resolve`). What a proof wants to know of the journal it reads out
of it with `World.read`.
-/

set_option autoImplicit false

namespace EventDispatch

variable {ν : Type}

/-- Whether a fact is about registering objects and resolving plans, and not about a delivery. -/
def Fact.isRoutine : Fact ν → Bool
  | .notAnnounced | .described _ | .built .. | .ignored _ | .alreadyRegistered _ => true
  | .registered _ | .unregistered _ | .cutShort .. | .resolved .. => true
  | _ => false

/-- The plan that the registry of a manager gives for a type. -/
def ManagerState.currentPlan (app : Application ν) (m : ManagerId) (state : ManagerState)
    (t : EventType) : Plan :=
  Plan.build app.hierarchy (app.maxDepth m) state.registry t

namespace World

/-- The entries of the journal, oldest first. -/
def history (w : World ν) : List (Entry ν) := w.journal.toList

/-- What `f` reads in the journal, oldest first. -/
def read {α : Type} (f : Entry ν → Option α) (w : World ν) : List α := w.history.filterMap f

/-- The world in which some handler numbers have been used up and some facts have been entered. -/
def chronicle (w : World ν) (numbers : Nat) (scope : Scope) (facts : List (Fact ν)) : World ν :=
  { w with
    nextHandler := w.nextHandler + numbers
    journal := w.journal ++ (facts.map (Entry.mk scope)).toArray }

/-- The world in which a fire has been opened in a scope. -/
def enter (w : World ν) (scope : Scope) : World ν :=
  if (w.guard? scope).isNone then w.setGuard scope [] else w

/-- The world in which a fire has been closed in a scope. -/
def leave (w : World ν) (scope : Scope) (outermost : Bool) : World ν :=
  if outermost then w.dropGuard scope else w

/-- The world in which the delivery of an event has begun. -/
def launch (app : Application ν) (w : World ν) (scope : Scope) (origin : Origin) (event : Event) :
    World ν :=
  let w' := (w.resolve app scope event.type).2
  { w' with nextDispatch := w'.nextDispatch + 1 }.record scope
    (.dispatched origin ⟨w'.nextDispatch, event⟩)

/-! ## The journal -/

section History

variable (w : World ν) (scope : Scope)

@[simp] theorem history_record (f : Fact ν) :
    (w.record scope f).history = w.history ++ [⟨scope, f⟩] := by
  simp [history, record]

@[simp] theorem history_chronicle (k : Nat) (fs : List (Fact ν)) :
    (w.chronicle k scope fs).history = w.history ++ fs.map (Entry.mk scope) := by
  simp [history, chronicle]

@[simp] theorem history_setManager (m : ManagerId) (s : ManagerState) :
    (w.setManager m s).history = w.history := rfl

@[simp] theorem history_setRegistry (m : ManagerId) (r : Registry) :
    (w.setRegistry m r).history = w.history := rfl

@[simp] theorem history_addFailure (i : Nat) : (w.addFailure scope i).history = w.history := rfl

@[simp] theorem history_enter : (w.enter scope).history = w.history := by
  unfold enter
  split <;> rfl

@[simp] theorem history_leave (b : Bool) : (w.leave scope b).history = w.history := by
  cases b <;> rfl

end History

/-! ## The managers -/

section Managers

variable (w : World ν) (scope : Scope) (m : ManagerId)

@[simp] theorem manager_chronicle (k : Nat) (fs : List (Fact ν)) :
    (w.chronicle k scope fs).manager m = w.manager m := rfl

@[simp] theorem manager_addFailure (i : Nat) :
    (w.addFailure scope i).manager m = w.manager m := rfl

@[simp] theorem manager_enter : (w.enter scope).manager m = w.manager m := by
  unfold enter
  split <;> rfl

@[simp] theorem manager_leave (b : Bool) : (w.leave scope b).manager m = w.manager m := by
  cases b <;> rfl

@[simp] theorem manager_setRegistry_self (r : Registry) :
    (w.setRegistry m r).manager m = { registry := r, cache := ∅ } := by
  simp [setRegistry]

theorem manager_setRegistry_of_ne {m m' : ManagerId} (hne : m' ≠ m) (w : World ν)
    (r : Registry) : (w.setRegistry m r).manager m' = w.manager m' :=
  manager_setManager_of_ne hne w _

end Managers

/-! ## The guards -/

section Guards

variable (w : World ν) (scope : Scope)

@[simp] theorem guard?_chronicle (k : Nat) (sc : Scope) (fs : List (Fact ν)) :
    (w.chronicle k sc fs).guard? scope = w.guard? scope := rfl

@[simp] theorem guard?_setManager (m : ManagerId) (s : ManagerState) :
    (w.setManager m s).guard? scope = w.guard? scope := rfl

@[simp] theorem guard?_setRegistry (m : ManagerId) (r : Registry) :
    (w.setRegistry m r).guard? scope = w.guard? scope := rfl

theorem guard?_setGuard_of_ne {sc sc' : Scope} (hne : sc' ≠ sc) (w : World ν) (g : List Nat) :
    (w.setGuard sc g).guard? sc' = w.guard? sc' :=
  Assoc.find?_insert_of_ne hne _ _

theorem guard?_dropGuard_of_ne {sc sc' : Scope} (hne : sc' ≠ sc) (w : World ν) :
    (w.dropGuard sc).guard? sc' = w.guard? sc' :=
  Assoc.find?_erase_of_ne hne _

@[simp] theorem guard?_addFailure_self (i : Nat) :
    (w.addFailure scope i).guard? scope = some ((w.guard? scope).getD [] ++ [i]) := by
  simp [addFailure]

theorem guard?_addFailure_of_ne {sc sc' : Scope} (hne : sc' ≠ sc) (w : World ν) (i : Nat) :
    (w.addFailure sc i).guard? sc' = w.guard? sc' :=
  guard?_setGuard_of_ne hne w _

/-- A fire that is opened shares the guard that it finds. -/
theorem guard?_enter_of_some {g : List Nat} (hg : w.guard? scope = some g) (sc : Scope) :
    (w.enter sc).guard? scope = some g := by
  unfold enter
  split
  · rename_i hnone
    rw [guard?_setGuard_of_ne, hg]
    rintro rfl
    simp [hg] at hnone
  · exact hg

/-- A scope without a guard gets an empty one. -/
theorem guard?_enter_of_none (hg : w.guard? scope = none) :
    (w.enter scope).guard? scope = some [] := by
  simp [enter, hg]

@[simp] theorem leave_false : w.leave scope false = w := rfl

theorem guard?_leave_of_ne {sc sc' : Scope} (hne : sc' ≠ sc) (w : World ν) (b : Bool) :
    (w.leave sc b).guard? sc' = w.guard? sc' := by
  cases b with
  | false => rfl
  | true => exact guard?_dropGuard_of_ne hne w

end Guards

/-! ## The next free numbers -/

section Numbers

variable (w : World ν) (scope : Scope)

@[simp] theorem nextHandler_record (f : Fact ν) :
    (w.record scope f).nextHandler = w.nextHandler := rfl

@[simp] theorem nextHandler_chronicle (k : Nat) (fs : List (Fact ν)) :
    (w.chronicle k scope fs).nextHandler = w.nextHandler + k := rfl

@[simp] theorem nextHandler_setManager (m : ManagerId) (s : ManagerState) :
    (w.setManager m s).nextHandler = w.nextHandler := rfl

@[simp] theorem nextHandler_setRegistry (m : ManagerId) (r : Registry) :
    (w.setRegistry m r).nextHandler = w.nextHandler := rfl

@[simp] theorem nextHandler_addFailure (i : Nat) :
    (w.addFailure scope i).nextHandler = w.nextHandler := rfl

@[simp] theorem nextHandler_enter : (w.enter scope).nextHandler = w.nextHandler := by
  unfold enter
  split <;> rfl

@[simp] theorem nextHandler_leave (b : Bool) :
    (w.leave scope b).nextHandler = w.nextHandler := by
  cases b <;> rfl

@[simp] theorem nextDispatch_record (f : Fact ν) :
    (w.record scope f).nextDispatch = w.nextDispatch := rfl

@[simp] theorem nextDispatch_chronicle (k : Nat) (fs : List (Fact ν)) :
    (w.chronicle k scope fs).nextDispatch = w.nextDispatch := rfl

@[simp] theorem nextDispatch_setManager (m : ManagerId) (s : ManagerState) :
    (w.setManager m s).nextDispatch = w.nextDispatch := rfl

@[simp] theorem nextDispatch_setRegistry (m : ManagerId) (r : Registry) :
    (w.setRegistry m r).nextDispatch = w.nextDispatch := rfl

@[simp] theorem nextDispatch_addFailure (i : Nat) :
    (w.addFailure scope i).nextDispatch = w.nextDispatch := rfl

@[simp] theorem nextDispatch_enter : (w.enter scope).nextDispatch = w.nextDispatch := by
  unfold enter
  split <;> rfl

@[simp] theorem nextDispatch_leave (b : Bool) :
    (w.leave scope b).nextDispatch = w.nextDispatch := by
  cases b <;> rfl

end Numbers

/-! ## Chronicles -/

theorem chronicle_zero_nil (w : World ν) (scope : Scope) : w.chronicle 0 scope [] = w := by
  simp [chronicle]

theorem record_chronicle (w : World ν) (k : Nat) (scope : Scope) (fs : List (Fact ν))
    (f : Fact ν) : (w.chronicle k scope fs).record scope f = w.chronicle k scope (fs ++ [f]) := by
  simp [chronicle, record]

theorem chronicle_record (w : World ν) (k : Nat) (scope : Scope) (fs : List (Fact ν))
    (f : Fact ν) : (w.record scope f).chronicle k scope fs = w.chronicle k scope (f :: fs) := by
  simp [chronicle, record]

theorem record_eq_chronicle (w : World ν) (scope : Scope) (f : Fact ν) :
    w.record scope f = w.chronicle 0 scope [f] := by
  rw [← chronicle_record, chronicle_zero_nil]

/-! ## Registering and removing -/

section Registration

variable (app : Application ν) (w : World ν) (scope : Scope) (o : ObjectId)

/-- The world in which an object of the type `type` has been registered. -/
def join (type : ObserverType) (facts : List (Fact ν)) : World ν :=
  (w.chronicle type.bindings.length scope facts).setRegistry scope.manager
    ((w.manager scope.manager).registry
      ++ [Member.build o type.name type.bindings w.nextHandler])

/-- The world in which an object has been removed. -/
def part (facts : List (Fact ν)) : World ν :=
  (w.chronicle 0 scope facts).setRegistry scope.manager
    ((w.manager scope.manager).registry.without o)

/-- What an attempt to register an object does: it leaves the managers as they are, or it appends a
new member to one registry. -/
inductive Registers : Change × World ν → Prop
  | kept {change : Change} {k : Nat} {fs : List (Fact ν)} :
      (∀ name, change ≠ .made name) → (∀ f ∈ fs, f.isRoutine = true) →
      Registers (change, w.chronicle k scope fs)
  | joined {type : ObserverType} {fs : List (Fact ν)} :
      app.observerType? o = some type →
      app.check scope.manager type = some (.ok ()) →
      (w.manager scope.manager).registry.holds o = false → (∀ f ∈ fs, f.isRoutine = true) →
      Registers (.made type.name, w.join scope o type fs)

/-- Registration starts from a world that is `w` with some facts entered. -/
theorem registers_register {type : ObserverType} (htype : app.observerType? o = some type)
    {fs : List (Fact ν)} (hfs : ∀ f ∈ fs, f.isRoutine = true) :
    Registers app w scope o ((w.chronicle 0 scope fs).register app scope o type) := by
  unfold register
  split
  · exact .kept (by simp) hfs
  · -- Bindings that are refused leave the managers alone, with or without an error.
    split
    · rw [record_chronicle]
      exact .kept (by simp) (List.forall_mem_append.2 ⟨hfs, by simp [Fact.isRoutine]⟩)
    · exact .kept (by simp) hfs
  · rename_i hcheck
    have hbuilt (before invoke after : Nat) (f : Fact ν) (hf : f.isRoutine = true) :
        ∀ g ∈ fs ++ [.built type.name before invoke after, f], g.isRoutine = true :=
      List.forall_mem_append.2 ⟨hfs, List.forall_mem_cons.2 ⟨rfl, List.forall_mem_singleton.2 hf⟩⟩
    have hnumbered (before invoke after : Nat) (f : Fact ν) :
        ({ w.chronicle 0 scope fs with
            nextHandler := (w.chronicle 0 scope fs).nextHandler + type.bindings.length }.record
              scope (.built type.name before invoke after)).record scope f
          = w.chronicle type.bindings.length scope
              (fs ++ [.built type.name before invoke after, f]) := by
      simp [chronicle, record]
    dsimp only
    split
    · -- An object that is registered already uses up numbers all the same.
      rw [hnumbered]
      exact .kept (by simp) (hbuilt _ _ _ _ rfl)
    · rename_i hholds
      rw [hnumbered]
      exact .joined htype hcheck (Bool.eq_false_iff.2 hholds) (hbuilt _ _ _ _ rfl)

theorem registers_add : Registers app w scope o (w.add app scope o) := by
  unfold add
  split
  · rename_i type htype
    have h : Registers app w scope o ((w.chronicle 0 scope []).register app scope o type) :=
      registers_register app w scope o htype (by simp)
    rwa [chronicle_zero_nil] at h
  · rw [record_eq_chronicle]
    exact .kept (by simp) (by simp [Fact.isRoutine])

theorem registers_addComponent : Registers app w scope o (w.addComponent app scope o) := by
  unfold addComponent
  split
  · rename_i type htype
    rw [record_eq_chronicle]
    exact registers_register app w scope o (Option.filter_eq_some_iff.1 htype).1
      (by simp [Fact.isRoutine])
  · rw [record_eq_chronicle]
    exact .kept (by simp) (by simp [Fact.isRoutine])

/-- What an attempt to remove an object does: nothing, or it takes one member out of one
registry. -/
inductive Removes : Change × World ν → Prop
  | kept : Removes (.none, w)
  | parted {member : Member} {fs : List (Fact ν)} :
      (w.manager scope.manager).registry.member? o = some member →
      (∀ f ∈ fs, f.isRoutine = true) → Removes (.made member.observerType, w.part scope o fs)

theorem removes_remove : Removes w scope o (w.remove scope o) := by
  unfold remove
  dsimp only
  split
  · rename_i member hmember
    rw [record_eq_chronicle]
    exact .parted hmember (by simp [Fact.isRoutine])
  · exact .kept

theorem manager_join (type : ObserverType) (fs : List (Fact ν)) (m : ManagerId) :
    (w.join scope o type fs).manager m
      = if m = scope.manager then
          { registry := (w.manager m).registry
              ++ [Member.build o type.name type.bindings w.nextHandler]
            cache := ∅ }
        else w.manager m := by
  unfold join
  split
  · rename_i hm
    rw [hm, manager_setRegistry_self]
  · rename_i hm
    rw [manager_setRegistry_of_ne hm, manager_chronicle]

theorem manager_part (fs : List (Fact ν)) (m : ManagerId) :
    (w.part scope o fs).manager m
      = if m = scope.manager then { registry := (w.manager m).registry.without o, cache := ∅ }
        else w.manager m := by
  unfold part
  split
  · rename_i hm
    rw [hm, manager_setRegistry_self]
  · rename_i hm
    rw [manager_setRegistry_of_ne hm, manager_chronicle]

@[simp] theorem nextHandler_join (type : ObserverType) (fs : List (Fact ν)) :
    (w.join scope o type fs).nextHandler = w.nextHandler + type.bindings.length := rfl

@[simp] theorem nextHandler_part (fs : List (Fact ν)) :
    (w.part scope o fs).nextHandler = w.nextHandler := rfl

@[simp] theorem guard?_join (type : ObserverType) (fs : List (Fact ν)) (sc : Scope) :
    (w.join scope o type fs).guard? sc = w.guard? sc := rfl

@[simp] theorem guard?_part (fs : List (Fact ν)) (sc : Scope) :
    (w.part scope o fs).guard? sc = w.guard? sc := rfl

@[simp] theorem nextDispatch_join (type : ObserverType) (fs : List (Fact ν)) :
    (w.join scope o type fs).nextDispatch = w.nextDispatch := rfl

@[simp] theorem nextDispatch_part (fs : List (Fact ν)) :
    (w.part scope o fs).nextDispatch = w.nextDispatch := rfl

@[simp] theorem history_join (type : ObserverType) (fs : List (Fact ν)) :
    (w.join scope o type fs).history = w.history ++ fs.map (Entry.mk scope) := by
  simp [join]

@[simp] theorem history_part (fs : List (Fact ν)) :
    (w.part scope o fs).history = w.history ++ fs.map (Entry.mk scope) := by
  simp [part]

end Registration

/-! ## Resolving and dispatching -/

section Resolution

variable (app : Application ν) (w : World ν) (scope : Scope)

/-- What resolving the plan of a type does: it finds the plan, or it builds the plan from the
registry and keeps it. -/
inductive Resolves (t : EventType) : Plan × World ν → Prop
  | found {plan : Plan} :
      (w.manager scope.manager).cache.find? t = some plan → Resolves t (plan, w)
  | built {fs : List (Fact ν)} :
      (w.manager scope.manager).cache.find? t = none → (∀ f ∈ fs, f.isRoutine = true) →
      Resolves t ((w.manager scope.manager).currentPlan app scope.manager t,
        (w.chronicle 0 scope fs).setManager scope.manager
          { w.manager scope.manager with
            cache := (w.manager scope.manager).cache.insert t
              ((w.manager scope.manager).currentPlan app scope.manager t) })

theorem resolves_resolve (t : EventType) : Resolves app w scope t (w.resolve app scope t) := by
  unfold resolve
  dsimp only
  split
  · rename_i plan hplan
    exact .found hplan
  · rename_i hnone
    split
    · -- The warning about the cut comes before the fact of the resolution.
      rw [record_eq_chronicle, chronicle_record]
      exact .built hnone (by simp [Fact.isRoutine])
    · rw [record_eq_chronicle]
      exact .built hnone (by simp [Fact.isRoutine])

section Launch

variable (origin : Origin) (event : Event)

@[simp] theorem guard?_launch (sc : Scope) :
    (w.launch app scope origin event).guard? sc = w.guard? sc := by
  show (w.resolve app scope event.type).2.guard? sc = w.guard? sc
  have h := resolves_resolve app w scope event.type
  generalize w.resolve app scope event.type = r at h ⊢
  cases h <;> rfl

@[simp] theorem nextHandler_launch :
    (w.launch app scope origin event).nextHandler = w.nextHandler := by
  show (w.resolve app scope event.type).2.nextHandler = w.nextHandler
  have h := resolves_resolve app w scope event.type
  generalize w.resolve app scope event.type = r at h ⊢
  cases h <;> rfl

theorem nextDispatch_resolve (t : EventType) :
    (w.resolve app scope t).2.nextDispatch = w.nextDispatch := by
  have h := resolves_resolve app w scope t
  generalize w.resolve app scope t = r at h ⊢
  cases h <;> rfl

@[simp] theorem nextDispatch_launch :
    (w.launch app scope origin event).nextDispatch = w.nextDispatch + 1 := by
  show (w.resolve app scope event.type).2.nextDispatch + 1 = w.nextDispatch + 1
  rw [nextDispatch_resolve]

/-- A dispatch enters routine facts and then itself. -/
theorem history_launch :
    ∃ fs : List (Fact ν), (∀ f ∈ fs, f.isRoutine = true) ∧
      (w.launch app scope origin event).history
        = w.history ++ fs.map (Entry.mk scope)
          ++ [⟨scope, .dispatched origin ⟨w.nextDispatch, event⟩⟩] := by
  have hresolve : ∃ fs : List (Fact ν), (∀ f ∈ fs, f.isRoutine = true) ∧
      (w.resolve app scope event.type).2.history = w.history ++ fs.map (Entry.mk scope) := by
    have h := resolves_resolve app w scope event.type
    generalize w.resolve app scope event.type = r at h ⊢
    cases h with
    | found => exact ⟨[], by simp, by simp⟩
    | built _ hfs => exact ⟨_, hfs, by simp⟩
  obtain ⟨fs, hfs, hhistory⟩ := hresolve
  refine ⟨fs, hfs, ?_⟩
  rw [← hhistory, ← nextDispatch_resolve app w scope event.type]
  exact history_record _ _ _

/-- A dispatch leaves every registry as it is. -/
@[simp] theorem registry_launch (m : ManagerId) :
    ((w.launch app scope origin event).manager m).registry = (w.manager m).registry := by
  show ((w.resolve app scope event.type).2.manager m).registry = (w.manager m).registry
  have h := resolves_resolve app w scope event.type
  generalize w.resolve app scope event.type = r at h ⊢
  cases h with
  | found => rfl
  | built =>
    by_cases hm : m = scope.manager
    · subst hm
      simp
    · simp [manager_setManager_of_ne hm]

/-- A dispatch leaves the other managers as they are. -/
theorem manager_launch_of_ne {m : ManagerId} (hne : m ≠ scope.manager) :
    (w.launch app scope origin event).manager m = w.manager m := by
  show (w.resolve app scope event.type).2.manager m = w.manager m
  have h := resolves_resolve app w scope event.type
  generalize w.resolve app scope event.type = r at h ⊢
  cases h with
  | found => rfl
  | built => rw [manager_setManager_of_ne hne, manager_chronicle]

/-- A dispatch leaves every cache as it is, except that the plan of its event's type is at hand
afterwards. -/
theorem cache_launch (m : ManagerId) (t : EventType) :
    ((w.launch app scope origin event).manager m).cache.find? t
      = if m = scope.manager ∧ t = event.type
          then some (w.resolve app scope event.type).1
          else (w.manager m).cache.find? t := by
  show ((w.resolve app scope event.type).2.manager m).cache.find? t = _
  have h := resolves_resolve app w scope event.type
  generalize w.resolve app scope event.type = r at h ⊢
  split
  · -- The plan in question is the one that has just been resolved.
    rename_i heq
    obtain ⟨rfl, rfl⟩ := heq
    cases h with
    | found hfound => exact hfound
    | built => simp
  · rename_i hne
    cases h with
    | found => rfl
    | built =>
      by_cases hm : m = scope.manager
      · -- Another type of the same manager keeps its plan.
        subst hm
        have ht : t ≠ event.type := fun ht => hne ⟨rfl, ht⟩
        simp [Assoc.find?_insert_of_ne ht]
      · simp [manager_setManager_of_ne hm]

end Launch

end Resolution

/-! ## Reading the journal -/

section Reading

variable {α : Type} (f : Entry ν → Option α) (w : World ν) (scope : Scope)

theorem read_append {w w' : World ν} {es : List (Entry ν)}
    (h : w'.history = w.history ++ es) : w'.read f = w.read f ++ es.filterMap f := by
  rw [read, h, List.filterMap_append, read]

@[simp] theorem read_record (fact : Fact ν) :
    (w.record scope fact).read f = w.read f ++ (f ⟨scope, fact⟩).toList := by
  rw [read_append f (history_record w scope fact)]
  cases hf : f ⟨scope, fact⟩ <;> simp [hf]

@[simp] theorem read_addFailure (i : Nat) : (w.addFailure scope i).read f = w.read f := rfl

@[simp] theorem read_enter : (w.enter scope).read f = w.read f := by
  rw [read, history_enter, read]

@[simp] theorem read_leave (b : Bool) : (w.leave scope b).read f = w.read f := by
  rw [read, history_leave, read]

/-- Whether a reader passes over routine facts. -/
def SkipsRoutine (f : Entry ν → Option α) : Prop :=
  ∀ (scope : Scope) (fact : Fact ν), fact.isRoutine = true → f ⟨scope, fact⟩ = none

section Routine

variable {f} (hf : SkipsRoutine f) {facts : List (Fact ν)}
  (hfacts : ∀ fact ∈ facts, fact.isRoutine = true)

include hf hfacts

theorem filterMap_routine : (facts.map (Entry.mk scope)).filterMap f = [] := by
  rw [List.filterMap_eq_nil_iff]
  intro entry hentry
  obtain ⟨fact, hfact, rfl⟩ := List.mem_map.1 hentry
  exact hf scope fact (hfacts fact hfact)

theorem read_chronicle (k : Nat) : (w.chronicle k scope facts).read f = w.read f := by
  rw [read_append f (history_chronicle w scope k facts), filterMap_routine scope hf hfacts,
    List.append_nil]

theorem read_join (o : ObjectId) (type : ObserverType) :
    (w.join scope o type facts).read f = w.read f := by
  rw [read_append f (history_join w scope o type facts), filterMap_routine scope hf hfacts,
    List.append_nil]

theorem read_part (o : ObjectId) : (w.part scope o facts).read f = w.read f := by
  rw [read_append f (history_part w scope o facts), filterMap_routine scope hf hfacts,
    List.append_nil]

end Routine

theorem read_launch {f : Entry ν → Option α} (hf : SkipsRoutine f) (app : Application ν)
    (origin : Origin) (event : Event) :
    (w.launch app scope origin event).read f
      = w.read f ++ (f ⟨scope, .dispatched origin ⟨w.nextDispatch, event⟩⟩).toList := by
  obtain ⟨fs, hfs, hhistory⟩ := w.history_launch app scope origin event
  rw [List.append_assoc] at hhistory
  rw [read_append f hhistory, List.filterMap_append, filterMap_routine scope hf hfs]
  cases hd : f ⟨scope, .dispatched origin ⟨w.nextDispatch, event⟩⟩ <;> simp [hd]

end Reading

end World

end EventDispatch
