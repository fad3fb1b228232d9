import EventDispatch.Proofs.Machine.Run
import EventDispatch.Proofs.Registry.Member

/-!
# Registries and caches

Three kinds of step touch the managers: a dispatch, which may keep a plan, a registration and a
removal (`Move.tended`). Hence in every state of a session the cached plans are those that the
registry gives at that moment, every member has been made by a registration that passed the rules,
and no object is registered twice with a manager (`Reachable.sound`).
-/

set_option autoImplicit false

namespace EventDispatch

variable {ν : Type} {app : Application ν}

/-- What a step does to the managers. -/
inductive World.Tended (app : Application ν) (w : World ν) : World ν → Prop
  | same {w' : World ν} : (∀ m, w'.manager m = w.manager m) → w.nextHandler ≤ w'.nextHandler →
      Tended app w w'
  | launched {scope : Scope} {origin : Origin} {event : Event} :
      Tended app w (w.launch app scope origin event)
  | joined {scope : Scope} {o : ObjectId} {type : ObserverType} {fs : List (Fact ν)} :
      app.observerType? o = some type →
      app.check scope.manager type = some (.ok ()) →
      (w.manager scope.manager).registry.holds o = false →
      Tended app w ((w.join scope o type fs).enter scope)
  | parted {scope : Scope} {o : ObjectId} {member : Member} {fs : List (Fact ν)} :
      (w.manager scope.manager).registry.member? o = some member →
      Tended app w ((w.part scope o fs).enter scope)

theorem Move.tended {s t : State ν} (h : Move app s t) : s.world.Tended app t.world := by
  cases h with
  | dispatch => exact .launched
  | joined _ _ _ _ _ _ _ _ htype hcheck hnew => exact .joined htype hcheck hnew
  | parted _ _ _ _ _ _ _ _ hmember => exact .parted hmember
  | spawned => exact .same (fun _ => rfl) (Nat.le_refl _)
  | _ => exact .same (by simp) (by simp)

/-! ## Members -/

namespace Member

/-- A member that a registration with a manager has made, with handler numbers below a limit. -/
def MadeBelow (app : Application ν) (m : ManagerId) (limit : Nat) (member : Member) : Prop :=
  ∃ type firstId, app.observerType? member.observer = some type ∧
    app.check m type = some (.ok ()) ∧
    firstId + type.bindings.length ≤ limit ∧
    member = .build member.observer type.name type.bindings firstId

theorem MadeBelow.mono {m : ManagerId} {n n' : Nat} {member : Member}
    (h : member.MadeBelow app m n) (hle : n ≤ n') : member.MadeBelow app m n' := by
  obtain ⟨type, firstId, htype, hcheck, hlimit, hmember⟩ := h
  exact ⟨type, firstId, htype, hcheck, Nat.le_trans hlimit hle, hmember⟩

/-- What the binding of one handler leaves alone is left alone by the binding of all. -/
theorem foldl_bind_eq {α : Type} {g : Member → α} (hg : ∀ m b, g (bind m b) = g m)
    (handlers : List BoundHandler) (m : Member) : g (handlers.foldl bind m) = g m := by
  induction handlers generalizing m with
  | nil => rfl
  | cons b rest ih => rw [List.foldl_cons, ih, hg]

@[simp] theorem observer_build (o : ObjectId) (name : String) (bindings : List Binding)
    (firstId : Nat) : (build o name bindings firstId).observer = o := by
  refine foldl_bind_eq (fun m b => ?_) _ _
  cases hp : b.descriptor.phase <;> simp [bind, hp]

/-- The handlers of a member observe with its object. -/
theorem MadeBelow.observer_eq {m : ManagerId} {limit : Nat} {member : Member}
    (h : member.MadeBelow app m limit) {b : BoundHandler} (hb : b ∈ member.bound) :
    b.observer = member.observer := by
  obtain ⟨type, firstId, -, -, -, hmember⟩ := h
  rw [hmember] at hb
  obtain ⟨i, x, -, rfl⟩ := (mem_handlers ..).1 (mem_handlers_of_mem_bound_build hb)
  rfl

/-- A manager whose bound is zero registers no handler of a type below the universal root. -/
theorem MadeBelow.maxDepth_pos {m : ManagerId} {limit : Nat} {member : Member}
    (h : member.MadeBelow app m limit) {b : BoundHandler} (hb : b ∈ member.bound)
    (hany : b.eventType ≠ .any) : 0 < app.maxDepth m := by
  obtain ⟨type, firstId, -, hcheck, -, hmember⟩ := h
  rw [hmember] at hb
  obtain ⟨i, x, hx, rfl⟩ := (mem_handlers ..).1 (mem_handlers_of_mem_bound_build hb)
  have hsome := Binding.isSome_chainLength?_of_check hcheck x (List.mem_of_getElem? hx)
  apply Nat.pos_of_ne_zero
  intro hzero
  have hlong : app.hierarchy.count .exact 0 x.eventType = .tooLong :=
    app.hierarchy.count_zero rfl hany
  rw [hzero, Hierarchy.chainLength?, hlong] at hsome
  cases hsome

end Member

namespace Registry

theorem objects_append (r : Registry) (member : Member) :
    objects (r ++ [member]) = objects r ++ [member.observer] := by
  simp [objects]

theorem objects_without (r : Registry) (o : ObjectId) :
    (r.without o).objects = r.objects.erase o := by
  induction r with
  | nil => rfl
  | cons member rest ih =>
    simp only [without, objects] at ih ⊢
    by_cases ho : member.observer = o
    · simp [ho]
    · simp [ho, ih]

theorem holds_iff {r : Registry} {o : ObjectId} : r.holds o = true ↔ o ∈ r.objects := by
  simp [holds, member?, objects]

theorem without_subset {r : Registry} {o : ObjectId} : r.without o ⊆ r :=
  List.eraseP_subset

end Registry

/-! ## One manager -/

/-- What holds of a manager in every state. -/
structure ManagerState.Sound (app : Application ν) (m : ManagerId) (limit : Nat)
    (state : ManagerState) : Prop where
  /-- A cached plan is the one that the registry gives. -/
  cached : ∀ {t : EventType} {plan : Plan}, state.cache.find? t = some plan →
    plan = state.currentPlan app m t
  /-- Members are made by registrations. -/
  made : ∀ {member : Member}, member ∈ state.registry → member.MadeBelow app m limit
  /-- No object is registered twice. -/
  nodup : state.registry.objects.Nodup

namespace ManagerState

variable {m : ManagerId} {limit limit' : Nat} {state : ManagerState}

theorem currentPlan_congr {state' : ManagerState} (h : state'.registry = state.registry)
    (t : EventType) : state'.currentPlan app m t = state.currentPlan app m t := by
  simp only [currentPlan, h]

/-- A plan holds handlers of members. -/
theorem mem_of_mem_currentPlan {t : EventType} {b : BoundHandler}
    (h : b ∈ (state.currentPlan app m t).toList) :
    ∃ member ∈ state.registry, b ∈ member.bound := by
  rw [currentPlan, Plan.toList_build, List.mem_flatMap] at h
  obtain ⟨p, -, hb⟩ := h
  obtain ⟨member, hmember, hhandler⟩ := List.mem_filterMap.1 hb
  exact ⟨member, hmember, Member.mem_bound_of_handler? hhandler⟩

theorem sound_empty : ({} : ManagerState).Sound app m limit where
  cached h := nomatch h
  made h := nomatch h
  nodup := List.nodup_nil

theorem Sound.mono (h : state.Sound app m limit) (hle : limit ≤ limit') :
    state.Sound app m limit' :=
  { h with made := fun hmember => (h.made hmember).mono hle }

/-- A change of the registry voids all plans. -/
theorem Sound.setRegistry {r : Registry}
    (hmade : ∀ member ∈ r, member.MadeBelow app m limit) (hnodup : r.objects.Nodup) :
    ({ registry := r, cache := ∅ } : ManagerState).Sound app m limit where
  cached h := nomatch h
  made h := hmade _ h
  nodup := hnodup

theorem Sound.append (h : state.Sound app m limit) (hle : limit ≤ limit') {member : Member}
    (hmember : member.MadeBelow app m limit')
    (hnew : state.registry.holds member.observer = false) :
    ({ registry := state.registry ++ [member], cache := ∅ } : ManagerState).Sound app m limit' := by
  apply Sound.setRegistry
  · intro x hx
    rcases List.mem_append.1 hx with hold | hlast
    · exact (h.made hold).mono hle
    · rwa [List.mem_singleton.1 hlast]
  · rw [Registry.objects_append, List.nodup_append]
    refine ⟨h.nodup, by simp, ?_⟩
    rintro a ha b hb rfl
    rw [List.mem_singleton.1 hb, ← Registry.holds_iff, hnew] at ha
    exact Bool.false_ne_true ha

theorem Sound.without (h : state.Sound app m limit) (o : ObjectId) :
    ({ registry := state.registry.without o, cache := ∅ } : ManagerState).Sound app m limit := by
  refine .setRegistry (fun x hx => h.made (Registry.without_subset hx)) ?_
  rw [Registry.objects_without]
  exact h.nodup.erase o

end ManagerState

/-! ## All managers -/

/-- What holds of the managers in every state. -/
def World.Sound (app : Application ν) (w : World ν) : Prop :=
  ∀ m, (w.manager m).Sound app m w.nextHandler

namespace World

/-- A plan that is resolved is the one that the registry gives, cached or not. -/
theorem Sound.resolve_eq {w : World ν} (hw : w.Sound app) (scope : Scope) (t : EventType) :
    (w.resolve app scope t).1 = (w.manager scope.manager).currentPlan app scope.manager t := by
  have h := w.resolves_resolve app scope t
  generalize w.resolve app scope t = r at h ⊢
  cases h with
  | found hplan => exact (hw _).cached hplan
  | built => rfl

/-- A dispatch keeps only the plan that the registry gives. -/
theorem Sound.launch {w : World ν} (hw : w.Sound app) (scope : Scope) (origin : Origin)
    (event : Event) : (w.launch app scope origin event).Sound app := by
  intro m
  constructor
  · intro t plan hplan
    rw [ManagerState.currentPlan_congr (registry_launch ..)]
    rw [cache_launch] at hplan
    split at hplan
    · -- The plan that is kept is the one that the registry gives, found or built.
      rename_i heq
      obtain ⟨rfl, rfl⟩ := heq
      rw [← Option.some.inj hplan]
      exact hw.resolve_eq scope event.type
    · exact (hw m).cached hplan
  · intro member hmember
    rw [registry_launch] at hmember
    rw [nextHandler_launch]
    exact (hw m).made hmember
  · rw [registry_launch]
    exact (hw m).nodup

theorem Tended.sound {w w' : World ν} (h : w.Tended app w') (hw : w.Sound app) :
    w'.Sound app := by
  cases h with
  | same hm hn =>
    intro m
    rw [hm]
    exact (hw m).mono hn
  | launched => exact hw.launch _ _ _
  | @joined scope o type fs htype hcheck hnew =>
    intro m
    rw [manager_enter, manager_join, nextHandler_enter, nextHandler_join]
    split
    · rename_i hm
      subst hm
      refine (hw _).append (Nat.le_add_right _ _) ⟨type, w.nextHandler, ?_, hcheck, ?_, ?_⟩ ?_
      · rwa [Member.observer_build]
      · exact Nat.le_refl _
      · rw [Member.observer_build]
      · rwa [Member.observer_build]
    · exact (hw m).mono (Nat.le_add_right _ _)
  | @parted scope o member fs hmember =>
    intro m
    rw [manager_enter, manager_part, nextHandler_enter, nextHandler_part]
    split
    · exact (hw m).without o
    · exact hw m

end World

theorem Reachable.sound {s : State ν} (hs : Reachable app s) : s.world.Sound app := by
  apply hs.induction (P := fun s => s.world.Sound app)
  · intro command m
    exact ManagerState.sound_empty
  · intro s t _ hmove h
    exact hmove.tended.sound h
  · intro s r command _ _ h
    exact h

end EventDispatch
