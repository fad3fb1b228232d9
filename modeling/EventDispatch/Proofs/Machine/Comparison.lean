import EventDispatch.Proofs.Machine.Scopes
import EventDispatch.Proofs.Registry.Renumbering

/-!
# Comparing two runs

Two runs are compared by what a `View` looks at: some of the managers, what it sees of the journal,
and whether threads are numbered alike. Two states agree in a view if what it looks at is the same
in both, up to the numbers that handlers and dispatches have been given. The machine does not look
at a number other than to compare it with the numbers in a guard, so states that agree do so after a
step as well, as long as the step acts where the view looks (`State.Agrees.step`).
-/

set_option autoImplicit false

namespace EventDispatch

variable {ν β : Type} {app : Application ν} {f : Nat → Nat}

/-! ## Facts without numbers -/

/-- The origin without a number. -/
def Origin.bare : Origin → Origin
  | .report _ => .report 0
  | origin => origin

/-- The delivery without its number. -/
def Delivery.bare (d : Delivery) : Delivery := { d with id := 0 }

/-- The handler without its number. -/
def BoundHandler.bare (b : BoundHandler) : BoundHandler := b.renumber fun _ => 0

/-- The fact without the numbers of handlers and dispatches. -/
def Fact.bare : Fact ν → Fact ν
  | .dispatched origin d => .dispatched origin.bare d.bare
  | .attempted d b => .attempted d.bare b.bare
  | .called d b part => .called d.bare b.bare part
  | .succeeded d b => .succeeded d.bare b.bare
  | .failed d b failure => .failed d.bare b.bare failure
  | .undeliverable d b failure => .undeliverable d.bare b.bare failure
  | .handlerError d b failure => .handlerError d.bare b.bare failure
  | .completed d => .completed d.bare
  | fact => fact

/-! ## Worlds -/

/-- What is looked at when two runs are compared: some of the managers, what is seen of the journal,
and whether threads are to be numbered alike. What is seen of an entry does not depend on the
numbers of handlers and dispatches. -/
structure View (ν β : Type) where
  manager : ManagerId → Prop
  seen? : Entry ν → Option β
  threads : Prop
  seen?_eq : ∀ {scope : Scope} {fact fact' : Fact ν}, fact.bare = fact'.bare →
    seen? ⟨scope, fact⟩ = seen? ⟨scope, fact'⟩

/-- What a view looks at is the same in two worlds, up to numbers: `f` takes those of handlers in
the second world to those in the first, and the next free one to the next free one. -/
structure World.Agrees (V : View ν β) (f : Nat → Nat) (w w' : World ν) : Prop where
  registry : ∀ m, V.manager m →
    Registry.Mirrors f w'.nextHandler (w.manager m).registry (w'.manager m).registry
  cached : ∀ m, V.manager m → (w.manager m).cache.keys = (w'.manager m).cache.keys
  guard : ∀ scope, V.manager scope.manager →
    w.guard? scope = (w'.guard? scope).map (List.map f)
  seen : w.read V.seen? = w'.read V.seen?
  thread : V.threads → w.nextThread = w'.nextThread
  fresh : ∀ k, f (w'.nextHandler + k) = w.nextHandler + k
  injective : Function.Injective f

namespace World

namespace Agrees

variable {V : View ν β}

section Observations

variable {w w' : World ν} (h : w.Agrees V f w') {m : ManagerId} (hm : V.manager m)

include h hm

theorem length_registry : (w.manager m).registry.length = (w'.manager m).registry.length := by
  have hlength := congrArg List.length (h.registry m hm).objects_eq
  rwa [Registry.objects, Registry.objects, List.length_map, List.length_map] at hlength

theorem size_cache : (w.manager m).cache.size = (w'.manager m).cache.size := by
  have hlength := congrArg List.length (h.cached m hm)
  rwa [Assoc.keys, Assoc.keys, List.length_map, List.length_map] at hlength

end Observations

section Operations

variable {w w' : World ν} {scope : Scope} (h : w.Agrees V f w')

include h

theorem record {fact fact' : Fact ν} (hfact : fact.bare = fact'.bare) :
    (w.record scope fact).Agrees V f (w'.record scope fact') := by
  refine ⟨h.registry, h.cached, h.guard, ?_, h.thread, h.fresh, h.injective⟩
  rw [read_record, read_record, h.seen, V.seen?_eq hfact]

theorem useHandlers (k : Nat) :
    ({ w with nextHandler := w.nextHandler + k } : World ν).Agrees V f
      { w' with nextHandler := w'.nextHandler + k } := by
  refine ⟨?_, h.cached, h.guard, h.seen, h.thread, ?_, h.injective⟩
  · intro m hm
    exact (h.registry m hm).mono (Nat.le_add_right _ _) fun _ _ => rfl
  · intro j
    show f (w'.nextHandler + k + j) = w.nextHandler + k + j
    rw [Nat.add_assoc, h.fresh, Nat.add_assoc]

theorem setDispatch (i j : Nat) :
    ({ w with nextDispatch := i } : World ν).Agrees V f { w' with nextDispatch := j } :=
  ⟨h.registry, h.cached, h.guard, h.seen, h.thread, h.fresh, h.injective⟩

theorem useThread :
    ({ w with nextThread := w.nextThread + 1 } : World ν).Agrees V f
      { w' with nextThread := w'.nextThread + 1 } :=
  ⟨h.registry, h.cached, h.guard, h.seen, fun hV => congrArg (· + 1) (h.thread hV), h.fresh,
    h.injective⟩

theorem setManager {r r' : Registry} {cache cache' : Assoc EventType Plan}
    (hregistry : Registry.Mirrors f w'.nextHandler r r') (hcached : cache.keys = cache'.keys) :
    (w.setManager scope.manager ⟨r, cache⟩).Agrees V f
      (w'.setManager scope.manager ⟨r', cache'⟩) := by
  refine ⟨?_, ?_, h.guard, h.seen, h.thread, h.fresh, h.injective⟩
  · intro m hm
    by_cases hscope : m = scope.manager
    · rwa [hscope, manager_setManager_self, manager_setManager_self]
    · rw [manager_setManager_of_ne hscope, manager_setManager_of_ne hscope]
      exact h.registry m hm
  · intro m hm
    by_cases hscope : m = scope.manager
    · rwa [hscope, manager_setManager_self, manager_setManager_self]
    · rw [manager_setManager_of_ne hscope, manager_setManager_of_ne hscope]
      exact h.cached m hm

/-! ### Guards -/

theorem setGuard (failed : List Nat) :
    (w.setGuard scope (failed.map f)).Agrees V f (w'.setGuard scope failed) := by
  refine ⟨h.registry, h.cached, ?_, h.seen, h.thread, h.fresh, h.injective⟩
  intro sc hsc
  by_cases hscope : sc = scope
  · rw [hscope, guard?_setGuard_self, guard?_setGuard_self, Option.map_some]
  · rw [guard?_setGuard_of_ne hscope, guard?_setGuard_of_ne hscope]
    exact h.guard sc hsc

theorem dropGuard : (w.dropGuard scope).Agrees V f (w'.dropGuard scope) := by
  refine ⟨h.registry, h.cached, ?_, h.seen, h.thread, h.fresh, h.injective⟩
  intro sc hsc
  by_cases hscope : sc = scope
  · rw [hscope, guard?_dropGuard_self, guard?_dropGuard_self, Option.map_none]
  · rw [guard?_dropGuard_of_ne hscope, guard?_dropGuard_of_ne hscope]
    exact h.guard sc hsc

theorem leave (outermost : Bool) :
    (w.leave scope outermost).Agrees V f (w'.leave scope outermost) := by
  cases outermost with
  | false => exact h
  | true => exact h.dropGuard

variable (hscope : V.manager scope.manager)

include hscope

theorem isNone_guard? : (w.guard? scope).isNone = (w'.guard? scope).isNone := by
  rw [h.guard scope hscope, Option.isNone_map]

theorem getD_guard? : (w.guard? scope).getD [] = ((w'.guard? scope).getD []).map f := by
  rw [h.guard scope hscope]
  cases w'.guard? scope <;> rfl

/-- Numbers are compared with each other and not used otherwise. -/
theorem hasFailed_eq (i : Nat) : w.hasFailed scope (f i) = w'.hasFailed scope i := by
  rw [hasFailed, hasFailed, h.getD_guard? hscope, Bool.eq_iff_iff, List.contains_iff_mem,
    List.contains_iff_mem, List.mem_map_of_injective h.injective]

theorem addFailure (i : Nat) :
    (w.addFailure scope (f i)).Agrees V f (w'.addFailure scope i) := by
  rw [World.addFailure, World.addFailure, h.getD_guard? hscope, ← List.map_singleton,
    ← List.map_append]
  exact h.setGuard _

theorem enter : (w.enter scope).Agrees V f (w'.enter scope) := by
  rw [World.enter, World.enter, h.isNone_guard? hscope]
  split
  · exact h.setGuard []
  · exact h

end Operations

end Agrees

/-! ### Registration -/

/-- The same outcome in worlds that agree. -/
def Change.Agrees (V : View ν β) (f : Nat → Nat) (r r' : Change × World ν) : Prop :=
  r.1 = r'.1 ∧ r.2.Agrees V f r'.2

namespace Agrees

variable {V : View ν β} {w w' : World ν} {scope : Scope} (h : w.Agrees V f w')
  (hscope : V.manager scope.manager)

include h hscope

theorem register (o : ObjectId) (type : ObserverType) :
    Change.Agrees V f (w.register app scope o type)
      (w'.register app scope o type) := by
  unfold World.register
  rcases hcheck : app.check scope.manager type with _ | refusal | _
  · exact ⟨rfl, h⟩
  · dsimp only
    split
    · exact ⟨rfl, h.record rfl⟩
    · exact ⟨rfl, h⟩
  · have hdistinct := Binding.pairwise_clashes_iff.1 (Binding.pairwise_of_check hcheck)
    have hfresh : ∀ i < type.bindings.length, f (w'.nextHandler + i) = w.nextHandler + i :=
      fun i _ => h.fresh i
    -- The tables are of the same sizes, so the descriptions are the same.
    have hsize := Member.size_table_build o type.name hdistinct hfresh
    have hbuilt : (Fact.built type.name
          ((Member.build o type.name type.bindings w.nextHandler).table .before).size
          ((Member.build o type.name type.bindings w.nextHandler).table .invoke).size
          ((Member.build o type.name type.bindings w.nextHandler).table .after).size : Fact ν).bare
        = (Fact.built type.name
          ((Member.build o type.name type.bindings w'.nextHandler).table .before).size
          ((Member.build o type.name type.bindings w'.nextHandler).table .invoke).size
          ((Member.build o type.name type.bindings w'.nextHandler).table .after).size).bare := by
      rw [hsize, hsize, hsize]
    have hnumbered := h.useHandlers type.bindings.length
    show Change.Agrees V f
      (if (w.manager scope.manager).registry.holds o = true then _ else _)
      (if (w'.manager scope.manager).registry.holds o = true then _ else _)
    rw [(h.registry _ hscope).holds_eq o]
    split
    · exact ⟨rfl, (hnumbered.record hbuilt).record rfl⟩
    · have hregistry := (h.registry _ hscope).append o type.name (Nat.le_refl _) hdistinct hfresh
      exact ⟨rfl, ((hnumbered.record hbuilt).record rfl).setManager hregistry rfl⟩

theorem add (o : ObjectId) :
    Change.Agrees V f (w.add app scope o) (w'.add app scope o) := by
  unfold World.add
  cases app.observerType? o with
  | none => exact ⟨rfl, h.record rfl⟩
  | some type => exact h.register hscope o type

theorem addComponent (o : ObjectId) :
    Change.Agrees V f (w.addComponent app scope o) (w'.addComponent app scope o) := by
  unfold World.addComponent
  cases (app.observerType? o).filter (·.announced) with
  | none => exact ⟨rfl, h.record rfl⟩
  | some type => exact (h.record rfl).register hscope o type

theorem remove (o : ObjectId) :
    Change.Agrees V f (w.remove scope o) (w'.remove scope o) := by
  have htype := (h.registry _ hscope).member?_eq o
  unfold World.remove
  dsimp only
  cases hmember : (w.manager scope.manager).registry.member? o with
  | none =>
    rw [hmember, Option.map_none, eq_comm, Option.map_eq_none_iff] at htype
    rw [htype]
    exact ⟨rfl, h⟩
  | some member =>
    rw [hmember, Option.map_some, eq_comm, Option.map_eq_some_iff] at htype
    obtain ⟨member', hmember', htype⟩ := htype
    rw [hmember']
    dsimp only
    rw [htype]
    exact ⟨rfl, (h.record rfl).setManager ((h.registry _ hscope).without o) rfl⟩

/-! ### Plans -/

theorem currentPlan_eq (app : Application ν) (t : EventType) :
    ((w.manager scope.manager).currentPlan app scope.manager t).toList
      = ((w'.manager scope.manager).currentPlan app scope.manager t).toList.map (.renumber f) :=
  (h.registry _ hscope).toList_plan app.hierarchy (app.maxDepth scope.manager) t

/-- A plan is at hand in both worlds or in neither. -/
theorem isSome_cache (t : EventType) :
    ((w.manager scope.manager).cache.find? t).isSome
      = ((w'.manager scope.manager).cache.find? t).isSome := by
  rw [Bool.eq_iff_iff, Assoc.isSome_find?_iff, Assoc.isSome_find?_iff, h.cached _ hscope]

theorem resolve (app : Application ν) (t : EventType) :
    (w.resolve app scope t).2.Agrees V f (w'.resolve app scope t).2 := by
  have hkeys := h.isSome_cache hscope t
  have hlength := congrArg List.length (h.currentPlan_eq hscope app t)
  rw [List.length_map] at hlength
  unfold World.resolve
  dsimp only
  cases hplan : (w.manager scope.manager).cache.find? t with
  | some plan =>
    rw [hplan, Option.isSome_some, eq_comm, Option.isSome_iff_exists] at hkeys
    obtain ⟨plan', hplan'⟩ := hkeys
    rw [hplan']
    exact h
  | none =>
    rw [hplan, Option.isSome_none, eq_comm, Option.isSome_eq_false_iff, Option.isNone_iff_eq_none]
      at hkeys
    rw [hkeys]
    -- Both worlds build a plan now, and the two have the same number of handlers.
    have hfact : (Fact.resolved t
          ((w.manager scope.manager).currentPlan app scope.manager t).toList.length : Fact ν).bare
        = (Fact.resolved t
          ((w'.manager scope.manager).currentPlan app scope.manager t).toList.length).bare :=
      congrArg (Fact.resolved t) hlength
    have hcached (plan plan' : Plan) : ((w.manager scope.manager).cache.insert t plan).keys
        = ((w'.manager scope.manager).cache.insert t plan').keys := by
      rw [Assoc.keys_insert, Assoc.keys_insert, h.cached _ hscope]
    dsimp only
    split
    · exact ((h.record rfl).record hfact).setManager (h.registry _ hscope) (hcached _ _)
    · exact (h.record hfact).setManager (h.registry _ hscope) (hcached _ _)

end Agrees

end World

/-! ## States -/

/-- What the machine is about to do is the same up to numbers. -/
inductive Control.Mirrors (f : Nat → Nat) : Control ν → Control ν → Prop
  | run (scope program) : Mirrors f (.run scope program) (.run scope program)
  | issue (thread command) : Mirrors f (.issue thread command) (.issue thread command)
  | perform (scope operation) : Mirrors f (.perform scope operation) (.perform scope operation)
  | dispatch (scope event) {origin origin' : Origin} (horigin : origin.bare = origin'.bare) :
      Mirrors f (.dispatch scope origin event) (.dispatch scope origin' event)
  | deliver (scope i j event handlers) :
      Mirrors f (.deliver scope ⟨i, event⟩ (handlers.map (.renumber f)))
        (.deliver scope ⟨j, event⟩ handlers)
  | fail (scope i j event b failure rest) :
      Mirrors f (.fail scope ⟨i, event⟩ (.renumber f b) failure (rest.map (.renumber f)))
        (.fail scope ⟨j, event⟩ b failure rest)
  | returned (result) : Mirrors f (.returned result) (.returned result)
  | completed : Mirrors f .completed .completed
  | answered (reply) : Mirrors f (.answered reply) (.answered reply)
  | unwinding (payload) : Mirrors f (.unwinding payload) (.unwinding payload)
  | stuck : Mirrors f .stuck .stuck

/-- What waits on the stack is the same up to numbers. -/
inductive Frame.Mirrors (f : Nat → Nat) : Frame ν → Frame ν → Prop
  | body (scope next) : Mirrors f (.body scope next) (.body scope next)
  | attempt (scope i j event b rest) :
      Mirrors f (.attempt scope ⟨i, event⟩ (.renumber f b) (rest.map (.renumber f)))
        (.attempt scope ⟨j, event⟩ b rest)
  | reporting (scope i j event b failure rest) :
      Mirrors f (.reporting scope ⟨i, event⟩ (.renumber f b) failure (rest.map (.renumber f)))
        (.reporting scope ⟨j, event⟩ b failure rest)
  | firing (scope outermost reply) :
      Mirrors f (.firing scope outermost reply) (.firing scope outermost reply)
  | contained : Mirrors f .contained .contained
  | joined : Mirrors f .joined .joined

/-- Whether a view looks where the next step acts: at the manager of its scope, and at the threads
if the step starts one. -/
structure View.Covers (V : View ν β) (s : State ν) : Prop where
  scope : ∀ scope, s.scope? = some scope → V.manager scope.manager
  thread : ∀ thread command, s.control = .issue thread command → command.mode = .spawned → V.threads

/-- What a view looks at is the same in two states, up to numbers. -/
structure State.Agrees (V : View ν β) (f : Nat → Nat) (s s' : State ν) : Prop where
  world : s.world.Agrees V f s'.world
  control : s.control.Mirrors f s'.control
  stack : List.Forall₂ (Frame.Mirrors f) s.stack s'.stack

namespace State

/-- How a run has ended does not depend on numbers. -/
theorem result?_eq_of_mirrors {s s' : State ν} (hcontrol : s.control.Mirrors f s'.control)
    (hstack : List.Forall₂ (Frame.Mirrors f) s.stack s'.stack) : s.result? = s'.result? := by
  obtain ⟨w, control, K⟩ := s
  obtain ⟨w', control', K'⟩ := s'
  cases hcontrol <;> cases hstack <;> rfl

namespace Agrees

variable {V : View ν β} {s s' : State ν}

section Operations

variable {w w' : World ν} {K K' : List (Frame ν)} {scope : Scope} (hworld : w.Agrees V f w')
  (hstack : List.Forall₂ (Frame.Mirrors f) K K')

include hworld hstack

theorem fire (hscope : V.manager scope.manager) (control control' : Control ν) (origin : Origin)
    (event : Event) (reply : Reply) :
    Agrees V f ((⟨w, control, K⟩ : State ν).fire scope origin event reply)
      ((⟨w', control', K'⟩ : State ν).fire scope origin event reply) := by
  refine ⟨hworld.enter hscope, .dispatch scope event rfl, ?_⟩
  show List.Forall₂ (Frame.Mirrors f) (.firing scope (w.guard? scope).isNone reply :: K)
    (.firing scope (w'.guard? scope).isNone reply :: K')
  rw [hworld.isNone_guard? hscope]
  exact .cons (.firing ..) hstack

omit hworld in
theorem conclude (hscope : V.manager scope.manager) (control control' : Control ν)
    (announce : String → Event) {r r' : World.Change × World ν}
    (hr : World.Change.Agrees V f r r') :
    Agrees V f ((⟨w, control, K⟩ : State ν).conclude scope announce r)
      ((⟨w', control', K'⟩ : State ν).conclude scope announce r') := by
  obtain ⟨change, v⟩ := r
  obtain ⟨change', v'⟩ := r'
  obtain ⟨rfl, hv⟩ := hr
  cases change with
  | none => exact ⟨hv, .answered _, hstack⟩
  | refused refusal => exact ⟨hv, .answered _, hstack⟩
  | undecided => exact ⟨hv, .stuck, hstack⟩
  | made observerType => exact fire hv hstack hscope control control' .membership _ _

theorem perform (hscope : V.manager scope.manager) (control control' : Control ν)
    (operation : Operation) :
    Agrees V f ((⟨w, control, K⟩ : State ν).perform app scope operation)
      ((⟨w', control', K'⟩ : State ν).perform app scope operation) := by
  cases operation with
  | add o => exact conclude hstack hscope control control' _ (hworld.add hscope o)
  | addComponent o => exact conclude hstack hscope control control' _ (hworld.addComponent hscope o)
  | remove o => exact conclude hstack hscope control control' _ (hworld.remove hscope o)
  | removeComponent o => exact conclude hstack hscope control control' _ (hworld.remove hscope o)
  | fire event => exact fire hworld hstack hscope control control' .request event _
  | isRegistered o =>
    refine ⟨hworld, ?_, hstack⟩
    show Control.Mirrors f (.answered (.flag ((w.manager scope.manager).registry.holds o)))
      (.answered (.flag ((w'.manager scope.manager).registry.holds o)))
    rw [(hworld.registry _ hscope).holds_eq]
    exact .answered _
  | status =>
    refine ⟨hworld, ?_, hstack⟩
    show Control.Mirrors f (.answered (.status (w.manager scope.manager).registry.length
        (w.manager scope.manager).cache.size))
      (.answered (.status (w'.manager scope.manager).registry.length
        (w'.manager scope.manager).cache.size))
    rw [hworld.length_registry hscope, hworld.size_cache hscope]
    exact .answered _

theorem dispatch (hscope : V.manager scope.manager) (hsound : w.Sound app) (hsound' : w'.Sound app)
    (control control' : Control ν) {origin origin' : Origin} (horigin : origin.bare = origin'.bare)
    (event : Event) :
    Agrees V f ((⟨w, control, K⟩ : State ν).dispatch app scope origin event)
      ((⟨w', control', K'⟩ : State ν).dispatch app scope origin' event) := by
  have hresolved := hworld.resolve hscope app event.type
  have hplan := hworld.currentPlan_eq hscope app event.type
  rw [← hsound.resolve_eq scope event.type, ← hsound'.resolve_eq scope event.type] at hplan
  refine ⟨(hresolved.setDispatch _ _).record ?_, ?_, hstack⟩
  · show Fact.dispatched origin.bare _ = Fact.dispatched origin'.bare _
    rw [horigin]
    rfl
  · show Control.Mirrors f (.deliver scope _ (w.resolve app scope event.type).1.toList)
      (.deliver scope _ (w'.resolve app scope event.type).1.toList)
    rw [hplan]
    exact .deliver ..

theorem deliver (control control' : Control ν) (i j : Nat) (event : Event)
    (handlers : List BoundHandler) :
    Agrees V f
      ((⟨w, control, K⟩ : State ν).deliver app scope ⟨i, event⟩ (handlers.map (.renumber f)))
      ((⟨w', control', K'⟩ : State ν).deliver app scope ⟨j, event⟩ handlers) := by
  cases handlers with
  | nil => exact ⟨hworld.record rfl, .completed, hstack⟩
  | cons b rest =>
    have hattempted : (w.record scope (.attempted ⟨i, event⟩ (b.renumber f))).Agrees V f
        (w'.record scope (.attempted ⟨j, event⟩ b)) := hworld.record rfl
    simp only [State.deliver, List.map_cons, BoundHandler.eventType_renumber]
    cases event.part? (app.maxDepth scope.manager) b.eventType with
    | some part =>
      exact ⟨hattempted.record rfl, .run .., .cons (.attempt ..) hstack⟩
    | none => exact ⟨hattempted, .fail .., hstack⟩

theorem fail (hscope : V.manager scope.manager) (control control' : Control ν) (i j : Nat)
    (event : Event) (b : BoundHandler) (failure : Failure) (rest : List BoundHandler) :
    Agrees V f
      ((⟨w, control, K⟩ : State ν).fail app scope ⟨i, event⟩ (b.renumber f) failure
        (rest.map (.renumber f)))
      ((⟨w', control', K'⟩ : State ν).fail app scope ⟨j, event⟩ b failure rest) := by
  have hfailed : (w.record scope (.failed ⟨i, event⟩ (b.renumber f) failure)).Agrees V f
      (w'.record scope (.failed ⟨j, event⟩ b failure)) := hworld.record rfl
  have hsilent := hfailed.hasFailed_eq hscope b.id
  have hadded := hfailed.addFailure hscope b.id
  unfold State.fail
  dsimp only
  rw [show (b.renumber f).id = f b.id from rfl, hsilent]
  split
  · exact ⟨hfailed, .deliver .., hstack⟩
  · split
    · exact ⟨hadded.record rfl, .deliver .., hstack⟩
    · split
      · exact ⟨hadded.record rfl, .deliver .., hstack⟩
      · exact ⟨hadded, .dispatch _ _ rfl, .cons (.reporting ..) hstack⟩

theorem issue {thread : ThreadId} {command : Command} (control control' : Control ν)
    (hthread : command.mode = .spawned → V.threads) :
    Agrees V f ((⟨w, control, K⟩ : State ν).issue thread command)
      ((⟨w', control', K'⟩ : State ν).issue thread command) := by
  unfold State.issue
  split
  · exact ⟨hworld, .perform .., hstack⟩
  · exact ⟨hworld, .perform .., .cons .contained hstack⟩
  · rename_i hspawned
    refine ⟨hworld.useThread, ?_, .cons .joined hstack⟩
    show Control.Mirrors f (.perform ⟨w.nextThread, _⟩ _) (.perform ⟨w'.nextThread, _⟩ _)
    rw [hworld.thread (hthread hspawned)]
    exact .perform ..

end Operations

/-! ## A step -/

/-- A step that acts where the view looks does the same in both states, up to numbers, if a program
that reads the notes goes on alike. -/
theorem step (h : s.Agrees V f s') (hs : s.world.Sound app) (hs' : s'.world.Sound app)
    (hcovers : V.Covers s) (hnotes : ∀ scope next, s.control = .run scope (.recall next) →
      next s.world.notes = next s'.world.notes) :
    (s.step app).Agrees V f (s'.step app) := by
  obtain ⟨w, control, K⟩ := s
  obtain ⟨w', control', K'⟩ := s'
  obtain ⟨hworld, hcontrol, hstack⟩ := h
  obtain ⟨hscope, hthread⟩ := hcovers
  dsimp only at hworld hcontrol hstack
  -- Both controls are of one kind. If it is an outcome, the topmost frames decide, and these are of
  -- one kind as well.
  cases hcontrol with
  | run scope program =>
    cases program with
    | finish result => exact ⟨hworld, .returned _, hstack⟩
    | panic payload => exact ⟨hworld, .unwinding _, hstack⟩
    | perform command next => exact ⟨hworld, .issue .., .cons (.body ..) hstack⟩
    | note entry next => exact ⟨hworld.record rfl, .run .., hstack⟩
    | «recall» next =>
      refine ⟨hworld, ?_, hstack⟩
      show Control.Mirrors f (.run scope (next w.notes)) (.run scope (next w'.notes))
      rw [hnotes scope next rfl]
      exact .run ..
  | issue thread command => exact issue hworld hstack _ _ (hthread thread command rfl)
  | perform scope operation => exact perform hworld hstack (hscope scope rfl) _ _ operation
  | dispatch scope event horigin =>
    exact dispatch hworld hstack (hscope scope rfl) hs hs' _ _ horigin event
  | deliver scope i j event handlers => exact deliver hworld hstack _ _ i j event handlers
  | fail scope i j event b failure rest =>
    exact fail hworld hstack (hscope scope rfl) _ _ i j event b failure rest
  | returned result =>
    cases hstack with
    | nil => exact ⟨hworld, .returned _, .nil⟩
    | cons hframe hbelow =>
      have hsame := List.Forall₂.cons hframe hbelow
      cases hframe with
      | attempt scope i j event b rest =>
        cases result with
        | ok => exact ⟨hworld.record rfl, .deliver .., hbelow⟩
        | error e => exact ⟨hworld, .fail .., hbelow⟩
      | _ => exact ⟨hworld, .returned _, hsame⟩
  | completed =>
    cases hstack with
    | nil => exact ⟨hworld, .completed, .nil⟩
    | cons hframe hbelow =>
      have hsame := List.Forall₂.cons hframe hbelow
      cases hframe with
      | firing scope outermost reply => exact ⟨hworld.leave outermost, .answered _, hbelow⟩
      | reporting scope i j event b failure rest =>
        exact ⟨hworld.record rfl, .deliver .., hbelow⟩
      | _ => exact ⟨hworld, .completed, hsame⟩
  | answered reply =>
    cases hstack with
    | nil => exact ⟨hworld, .answered _, .nil⟩
    | cons hframe hbelow =>
      have hsame := List.Forall₂.cons hframe hbelow
      cases hframe with
      | body => exact ⟨hworld, .run .., hbelow⟩
      | contained | joined => exact ⟨hworld, .answered _, hbelow⟩
      | _ => exact ⟨hworld, .answered _, hsame⟩
  | unwinding payload =>
    cases hstack with
    | nil => exact ⟨hworld, .unwinding _, .nil⟩
    | cons hframe hbelow =>
      cases hframe with
      | attempt scope i j event b rest =>
        simp only [State.step, State.unwinding]
        split
        · exact ⟨hworld, .fail .., hbelow⟩
        · exact ⟨hworld, .unwinding _, hbelow⟩
      | firing scope outermost reply => exact ⟨hworld.leave outermost, .unwinding _, hbelow⟩
      | contained => exact ⟨hworld, .answered _, hbelow⟩
      | body | reporting | joined => exact ⟨hworld, .unwinding _, hbelow⟩
  | stuck => exact ⟨hworld, .stuck, hstack⟩

end Agrees

end State

end EventDispatch
