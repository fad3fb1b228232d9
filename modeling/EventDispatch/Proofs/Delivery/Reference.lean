import EventDispatch.Proofs.Delivery.Progress
import EventDispatch.Proofs.Event.Lineage
import EventDispatch.Proofs.Registry.Roster
import EventDispatch.Script.Play
import Mathlib.Data.List.Basic

/-!
# The reference of a delivery

`Application.reference` says which handlers an event of a type goes to, from the list of registered
objects and from what the application declares, without tables, plans or caches: phase by phase,
object by object, the binding of the object for the phase whose type comes first in the lineage of
the event's type. A dispatch attempts exactly these handlers in this order, whatever happens while
it is running (`Reachable.delivery_eq_reference`).
-/

set_option autoImplicit false

namespace EventDispatch

variable {ν : Type} {app : Application ν}

/-- The binding that an object contributes to a phase for an event of a type. -/
def Application.contribution? (app : Application ν) (m : ManagerId) (t : EventType) (p : Phase)
    (o : ObjectId) : Option (ObjectId × Nat) :=
  (app.observerType? o).bind fun type =>
    (Binding.choose? type.bindings p (app.hierarchy.lineage (app.maxDepth m) t)).map fun i => (o, i)

/-- The bindings that an event of a type goes to, in order, each with its object. -/
def Application.reference (app : Application ν) (m : ManagerId) (objects : List ObjectId)
    (t : EventType) : List (ObjectId × Nat) :=
  Phase.all.flatMap fun p => objects.filterMap (app.contribution? m t p)

/-- The object and the binding that a handler stands for. -/
def BoundHandler.place (b : BoundHandler) : ObjectId × Nat := (b.observer, b.binding)

/-! ## Every binding comes once -/

theorem Binding.phase_of_choose? {bindings : List Binding} {p : Phase} {types : List EventType}
    {i : Nat} (h : choose? bindings p types = some i) :
    (bindings[i]?).map (·.phase) = some p := by
  obtain ⟨t, -, hfind⟩ := List.exists_of_findSome?_eq_some h
  obtain ⟨hi, hb, -⟩ := List.findIdx?_eq_some_iff_getElem.1 hfind
  rw [Bool.and_eq_true, decide_eq_true_eq] at hb
  rw [List.getElem?_eq_getElem hi, Option.map_some, hb.1]

/-- A contribution belongs to its object and its phase. -/
theorem Application.contribution?_eq_some {m : ManagerId} {t : EventType} {p : Phase}
    {o : ObjectId} {x : ObjectId × Nat} (h : app.contribution? m t p o = some x) :
    x.1 = o ∧ ∃ type, app.observerType? o = some type ∧
      (type.bindings[x.2]?).map (·.phase) = some p := by
  obtain ⟨type, htype, hchoice⟩ := Option.bind_eq_some_iff.1 h
  obtain ⟨i, hi, rfl⟩ := Option.map_eq_some_iff.1 hchoice
  exact ⟨rfl, type, htype, Binding.phase_of_choose? hi⟩

theorem Application.reference_nodup (m : ManagerId) {objects : List ObjectId}
    (hobjects : objects.Nodup) (t : EventType) : (app.reference m objects t).Nodup := by
  rw [reference, List.nodup_iff_pairwise_ne, List.pairwise_flatMap]
  constructor
  · intro p hp
    refine List.Pairwise.filterMap _ ?_ hobjects
    rintro o o' hne x hx y hy rfl
    exact hne ((contribution?_eq_some hx).1.symm.trans (contribution?_eq_some hy).1)
  · have hphases : Phase.all.Pairwise (· ≠ ·) := by decide
    refine hphases.imp ?_
    rintro p q hne x hx y hy rfl
    obtain ⟨o, -, ho⟩ := List.mem_filterMap.1 hx
    obtain ⟨o', -, ho'⟩ := List.mem_filterMap.1 hy
    obtain ⟨hobserver, type, htype, hphase⟩ := contribution?_eq_some ho
    obtain ⟨hobserver', type', htype', hphase'⟩ := contribution?_eq_some ho'
    rw [← hobserver'.symm.trans hobserver, htype'] at htype
    cases htype
    exact hne (Option.some.inj (hphase.symm.trans hphase'))

/-! ## Plans and the reference -/

/-- A member offers the handler of the binding that its object contributes. -/
theorem Member.MadeBelow.place_handler? {m : ManagerId} {limit : Nat} {member : Member}
    (h : member.MadeBelow app m limit) (p : Phase) {t : EventType} (ht : t ≠ .any) :
    (member.handler? app.hierarchy (app.maxDepth m) p t).map BoundHandler.place
      = app.contribution? m t p member.observer := by
  have hobserver {b : BoundHandler}
      (hb : member.handler? app.hierarchy (app.maxDepth m) p t = some b) :
      b.place = (member.observer, b.binding) := by
    rw [BoundHandler.place, h.observer_eq (Member.mem_bound_of_handler? hb)]
  obtain ⟨type, firstId, htype, hcheck, -, hmember⟩ := h
  have hbinding : (member.handler? app.hierarchy (app.maxDepth m) p t).map (·.binding)
      = Binding.choose? type.bindings p (app.hierarchy.lineage (app.maxDepth m) t) := by
    rw [hmember, Member.handler?_build (Binding.pairwise_of_check hcheck),
      Hierarchy.ancestry_eq_lineage _ _ ht]
  rw [Application.contribution?, htype, Option.bind_some, ← hbinding, Option.map_map]
  exact Option.map_congr fun b hb => hobserver hb

/-- The plan that the registry of a manager gives is the reference for its objects. -/
theorem ManagerState.Sound.place_currentPlan {m : ManagerId} {limit : Nat} {state : ManagerState}
    (h : state.Sound app m limit) {t : EventType} (ht : t ≠ .any) :
    (state.currentPlan app m t).toList.map BoundHandler.place
      = app.reference m state.registry.objects t := by
  rw [currentPlan, Plan.toList_build, List.map_flatMap, Application.reference]
  congr 1
  funext p
  rw [Plan.eligible, List.map_filterMap, Registry.objects, List.filterMap_map]
  exact List.filterMap_congr fun member hmember => (h.made hmember).place_handler? p ht

/-! ## Dispatches -/

/-- A dispatch goes to the reference list of the objects that have been added and not removed when
it begins, each handler of the list once and in its place: what it has attempted is a beginning of
the list as long as it runs and the whole list when it ends without a panic. -/
theorem Reachable.delivery_eq_reference {s : State ν} (hs : Reachable app s) {scope : Scope}
    {origin : Origin} {event : Event} (hdispatch : s.control = .dispatch scope origin event) :
    ∃ handlers : List BoundHandler,
      handlers.map BoundHandler.place
        = app.reference scope.manager (s.roster scope.manager) event.type ∧
      (app.reference scope.manager (s.roster scope.manager) event.type).Nodup ∧
      (∀ b ∈ handlers, ∃ member ∈ (s.world.manager scope.manager).registry, b ∈ member.bound) ∧
      (∀ t, During app s t → t.attemptsOf s.world.nextDispatch
        <+: handlers.map (Attempt.mk scope ⟨s.world.nextDispatch, event⟩)) ∧
      ∀ t, EndsAt app s t → (∀ payload, t.control ≠ .unwinding payload) →
        t.attemptsOf s.world.nextDispatch
          = handlers.map (Attempt.mk scope ⟨s.world.nextDispatch, event⟩) := by
  have hsound := hs.sound
  have hplan := hsound.resolve_eq scope event.type
  refine ⟨(s.world.resolve app scope event.type).1.toList, ?_, ?_, ?_,
    fun t ht => hs.attemptsOf_prefix hdispatch ht,
    fun t ht hpanic => hs.attemptsOf_eq hdispatch ht hpanic⟩
  · rw [hplan, hs.roster_eq]
    exact (hsound _).place_currentPlan event.type_ne_any
  · rw [hs.roster_eq]
    exact Application.reference_nodup _ (hsound _).nodup _
  · rw [hplan]
    intro b hb
    exact ManagerState.mem_of_mem_currentPlan hb

/-- Two observers of `custom 0`, the type above `custom 1`. The first one removes the second when it
is called. -/
def eviction : Script.Cast where
  hierarchy := ⟨fun i => if i = 1 then some (.custom 0) else none⟩
  names := ⟨fun _ => "Event", fun _ => .labelled "Event"⟩
  managers := [{}]
  roles := [
    some ⟨"Bouncer", false, [⟨⟨.invoke, .custom 0, "evict"⟩, false,
      [⟨.act ⟨.remove 1, 0, .direct⟩ false, 0, none, none⟩]⟩]⟩,
    some ⟨"Guest", false, [⟨⟨.invoke, .custom 0, "stay"⟩, false, []⟩]⟩]

/-- The state in which an event of `custom 1` is about to be dispatched to the two of them. -/
def evictionState : State Script.Note :=
  (State.start (World.after eviction.application 20 {} [{ operation := .add 0 },
    { operation := .add 1 }]) { operation := .fire (.extending 1 "" (.plain 0 "")) }).steps
      eviction.application 2

/-- The second observer is removed before its turn comes, and attempted all the same. -/
theorem evicted_observer_still_attempted :
    Reachable eviction.application evictionState ∧
      evictionState.control = .dispatch ⟨0, 0⟩ .request (.extending 1 "" (.plain 0 "")) ∧
      (evictionState.steps eviction.application 21).roster 0 = [0] ∧
      ((evictionState.steps eviction.application 21).attemptsOf
        evictionState.world.nextDispatch).map (·.handler.place) = [(0, 0), (1, 0)] := by
  have hs : Reachable eviction.application evictionState :=
    (Reachable.after _ (fun _ => .start _) (by decide +kernel)).steps 2
  have hdispatch : evictionState.control
      = .dispatch ⟨0, 0⟩ .request (.extending 1 "" (.plain 0 "")) := rfl
  have hends : EndsAt eviction.application evictionState
      (evictionState.steps eviction.application 21) :=
    .of_steps (by decide +kernel) (by decide +kernel)
  have hpanic (payload : Payload) :
      (evictionState.steps eviction.application 21).control ≠ .unwinding payload := by
    intro h
    cases h
  obtain ⟨handlers, hplaces, -, -, -, hall⟩ := hs.delivery_eq_reference hdispatch
  refine ⟨hs, hdispatch, by decide +kernel, ?_⟩
  rw [hall _ hends hpanic, List.map_map]
  exact hplaces.trans (by decide +kernel)

end EventDispatch
