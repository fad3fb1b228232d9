import EventDispatch.Proofs.Registry.Roster
import EventDispatch.Script.Play
import Mathlib.Data.List.Dedup

/-!
# What a cache holds

A manager keeps a plan for each type of which it has dispatched an event since its registry last
changed, and for no other type; each plan that it keeps is the one that the registry gives
(`Reachable.cache_coherent`). A change voids all plans, and its announcement is the first dispatch
after it, so the announcements divide the dispatches of a manager into stretches without a change
(`Move.registry_ne_iff`), and `State.typesSince` reads the types of the last stretch.
-/

set_option autoImplicit false

namespace EventDispatch

variable {ν : Type} {app : Application ν}

/-! ## The dispatches since the last change -/

/-- Whether a dispatch announces a change of a manager's registry. -/
def Begun.announces (m : ManagerId) (d : Begun) : Bool :=
  d.origin = .membership && d.scope.manager = m

/-- Whether a change of a manager's registry has just been made and is about to be announced. -/
def State.announces (m : ManagerId) (s : State ν) : Bool :=
  s.control.begun?.any (Begun.announces m)

/-- Enters a dispatch into the types of a manager's dispatches since the last announcement, which
is counted in. -/
def Begun.enterType (m : ManagerId) (types : List EventType) (d : Begun) : List EventType :=
  if d.announces m then [d.event.type]
  else if d.scope.manager = m then types ++ [d.event.type]
  else types

/-- The types of the events that a manager has dispatched since the last announcement. -/
def World.typesSince (m : ManagerId) (w : World ν) : List EventType :=
  (w.read Entry.begun?).foldl (Begun.enterType m) []

/-- The types of the events that a manager has dispatched since its registry last changed: none, if
the change is still to be announced. -/
def State.typesSince (m : ManagerId) (s : State ν) : List EventType :=
  if s.announces m then [] else s.world.typesSince m

theorem State.typesSince_of_begun?_eq_none {s : State ν} (hs : s.control.begun? = none)
    (m : ManagerId) : s.typesSince m = s.world.typesSince m := by
  rw [typesSince, announces, hs]
  rfl

/-- A move enters the dispatch that was about to begin. -/
theorem Move.typesSince_world {s t : State ν} (h : Move app s t) (m : ManagerId) :
    t.world.typesSince m
      = s.control.begun?.toList.foldl (Begun.enterType m) (s.world.typesSince m) := by
  rw [World.typesSince, h.read_begun?, State.dispatches, List.foldl_append, World.typesSince]

/-- A step that neither begins a dispatch nor brings one up keeps the types. -/
theorem Move.typesSince_of_idle {s t : State ν} (h : Move app s t) (m : ManagerId)
    (hs : s.control.begun? = none) (ht : t.announces m = false) :
    t.typesSince m = s.typesSince m := by
  rw [State.typesSince_of_begun?_eq_none hs, State.typesSince, ht, h.typesSince_world, hs]
  rfl

/-- A registry changes in the steps that bring up the announcement of a change, and in no other. -/
theorem Move.registry_ne_iff {s t : State ν} (h : Move app s t) (m : ManagerId) :
    (t.world.manager m).registry ≠ (s.world.manager m).registry ↔ t.announces m = true := by
  have hkept (hregistry : (t.world.manager m).registry = (s.world.manager m).registry)
      (hannounces : t.announces m = false) :
      (t.world.manager m).registry ≠ (s.world.manager m).registry ↔ t.announces m = true := by
    rw [hregistry, hannounces]
    simp
  cases h with
  | joined w scope operation o type fs K =>
    by_cases hm : m = scope.manager
    · subst hm
      apply iff_of_true
      · -- The new member makes the registry longer.
        intro heq
        have hlength := congrArg List.length heq
        simp [World.manager_join] at hlength
      · simp [State.announces, Control.begun?, Begun.announces]
    · apply hkept
      · simp [World.manager_join, hm]
      · simp [State.announces, Control.begun?, Begun.announces, Ne.symm hm]
  | parted w scope operation o member fs K hop hmember =>
    by_cases hm : m = scope.manager
    · subst hm
      apply iff_of_true
      · -- The member that is taken out makes it shorter.
        intro heq
        have hholds : o ∈ (w.manager scope.manager).registry.objects := by
          rw [← Registry.holds_iff, Registry.holds, hmember]
          rfl
        have hobjects := congrArg Registry.objects heq
        simp only [World.manager_enter, World.manager_part, if_true, Registry.objects_without]
          at hobjects
        have hlength := List.length_erase_add_one hholds
        rw [hobjects] at hlength
        omega
      · simp [State.announces, Control.begun?, Begun.announces]
    · apply hkept
      · simp [World.manager_part, hm]
      · simp [State.announces, Control.begun?, Begun.announces, Ne.symm hm]
  | dispatch => exact hkept (by simp) rfl
  | fire => exact hkept (by simp) (by simp [State.announces, Control.begun?, Begun.announces])
  | report => exact hkept (by simp) (by simp [State.announces, Control.begun?, Begun.announces])
  | spawned => exact hkept rfl rfl
  | rest w control K hended =>
    apply hkept rfl
    rw [State.announces, begun?_eq_none_of_isOutcome hended]
    rfl
  | _ => exact hkept (by simp) rfl

/-! ## One step -/

/-- A dispatch keeps a plan for its event's type, unless there is one. -/
theorem World.keys_launch (w : World ν) (app : Application ν) (scope : Scope) (origin : Origin)
    (event : Event) :
    ((w.launch app scope origin event).manager scope.manager).cache.keys
      = if event.type ∈ (w.manager scope.manager).cache.keys
          then (w.manager scope.manager).cache.keys
          else (w.manager scope.manager).cache.keys ++ [event.type] := by
  show ((w.resolve app scope event.type).2.manager scope.manager).cache.keys = _
  have h := w.resolves_resolve app scope event.type
  generalize w.resolve app scope event.type = r at h ⊢
  cases h with
  | found hfound =>
    have hmem : event.type ∈ (w.manager scope.manager).cache.keys := by
      rw [← Assoc.isSome_find?_iff, hfound]
      rfl
    rw [if_pos hmem]
  | built => rw [World.manager_setManager_self, Assoc.keys_insert]

/-- What a step does to the cached types of a manager and to the types of its dispatches since the
last change. -/
inductive State.Renews (m : ManagerId) (s t : State ν) : Prop
  | same (hkeys : (t.world.manager m).cache.keys = (s.world.manager m).cache.keys)
      (htypes : t.typesSince m = s.typesSince m)
  | voided (hkeys : (t.world.manager m).cache.keys = []) (htypes : t.typesSince m = [])
  | resolved (type : EventType)
      (hkeys : (t.world.manager m).cache.keys
        = if type ∈ (s.world.manager m).cache.keys then (s.world.manager m).cache.keys
          else (s.world.manager m).cache.keys ++ [type])
      (htypes : t.typesSince m = s.typesSince m ++ [type])

theorem Move.renews {s t : State ν} (h : Move app s t) (m : ManagerId) : s.Renews m t := by
  have hidle := h.typesSince_of_idle m
  have hworld := h.typesSince_world m
  cases h with
  | joined w scope operation o type fs K =>
    by_cases hm : m = scope.manager
    · subst hm
      apply State.Renews.voided
      · rw [World.manager_enter, World.manager_join, if_pos rfl]
        rfl
      · simp [State.typesSince, State.announces, Control.begun?, Begun.announces]
    · apply State.Renews.same
      · rw [World.manager_enter, World.manager_join, if_neg hm]
      · apply hidle rfl
        simp [State.announces, Control.begun?, Begun.announces, Ne.symm hm]
  | parted w scope operation o member fs K =>
    by_cases hm : m = scope.manager
    · subst hm
      apply State.Renews.voided
      · rw [World.manager_enter, World.manager_part, if_pos rfl]
        rfl
      · simp [State.typesSince, State.announces, Control.begun?, Begun.announces]
    · apply State.Renews.same
      · rw [World.manager_enter, World.manager_part, if_neg hm]
      · apply hidle rfl
        simp [State.announces, Control.begun?, Begun.announces, Ne.symm hm]
  | dispatch w scope origin event K =>
    have htypes : State.typesSince m ⟨w.launch app scope origin event,
          .deliver scope ⟨w.nextDispatch, event⟩ (w.resolve app scope event.type).1.toList, K⟩
        = Begun.enterType m (w.typesSince m) ⟨scope, origin, event⟩ := hworld
    by_cases hm : m = scope.manager
    · subst hm
      apply State.Renews.resolved event.type (w.keys_launch app scope origin event)
      -- An announcement is the first dispatch since the change, any other comes after the others.
      rw [htypes]
      by_cases horigin : origin = .membership <;>
        simp [Begun.enterType, State.typesSince, State.announces, Control.begun?, Begun.announces,
          horigin]
    · apply State.Renews.same
      · show ((w.resolve app scope event.type).2.manager m).cache.keys = (w.manager m).cache.keys
        have h := w.resolves_resolve app scope event.type
        generalize w.resolve app scope event.type = r at h ⊢
        cases h with
        | found => rfl
        | built => rw [World.manager_setManager_of_ne hm, World.manager_chronicle]
      · rw [htypes]
        simp [Begun.enterType, State.typesSince, State.announces, Control.begun?, Begun.announces,
          Ne.symm hm]
  | fire =>
    apply State.Renews.same (by simp)
    exact hidle rfl (by simp [State.announces, Control.begun?, Begun.announces])
  | report =>
    apply State.Renews.same (by simp)
    exact hidle rfl (by simp [State.announces, Control.begun?, Begun.announces])
  | spawned => exact .same rfl (hidle rfl rfl)
  | rest => exact .same rfl rfl
  | _ => exact .same (by simp) (hidle rfl rfl)

/-! ## All states -/

/-- The cached types are those of the dispatches since the last change, each of them once. -/
structure State.Renewed (m : ManagerId) (s : State ν) : Prop where
  nodup : (s.world.manager m).cache.keys.Nodup
  mem_iff : ∀ type, type ∈ (s.world.manager m).cache.keys ↔ type ∈ s.typesSince m

theorem State.Renews.renewed {m : ManagerId} {s t : State ν} (h : s.Renews m t)
    (hs : s.Renewed m) : t.Renewed m := by
  cases h with
  | same hkeys htypes =>
    constructor
    · rw [hkeys]
      exact hs.nodup
    · intro type
      rw [hkeys, htypes]
      exact hs.mem_iff type
  | voided hkeys htypes =>
    constructor
    · rw [hkeys]
      exact List.nodup_nil
    · intro type
      rw [hkeys, htypes]
  | resolved type hkeys htypes =>
    by_cases hmem : type ∈ (s.world.manager m).cache.keys
    · -- The plan was at hand, so the type is among those of the dispatches before.
      rw [if_pos hmem] at hkeys
      constructor
      · rw [hkeys]
        exact hs.nodup
      · intro type'
        rw [hkeys, htypes, List.mem_append, List.mem_singleton, hs.mem_iff]
        constructor
        · exact Or.inl
        · rintro (hold | rfl)
          · exact hold
          · exact (hs.mem_iff _).1 hmem
    · rw [if_neg hmem] at hkeys
      constructor
      · rw [hkeys]
        exact List.nodup_append.2 ⟨hs.nodup, List.nodup_singleton type, by
          rintro a ha b hb rfl
          exact hmem (List.mem_singleton.1 hb ▸ ha)⟩
      · intro type'
        rw [hkeys, htypes, List.mem_append, List.mem_append, hs.mem_iff]

theorem Reachable.renewed {s : State ν} (hs : Reachable app s) (m : ManagerId) : s.Renewed m := by
  apply hs.induction (P := State.Renewed m)
  · intro command
    exact ⟨List.nodup_nil, fun type => Iff.rfl⟩
  · intro s t _ hmove h
    exact (hmove.renews m).renewed h
  · intro s r command _ hr h
    have htypes : (State.start s.world command).typesSince m = s.typesSince m := by
      obtain ⟨w, control, K⟩ := s
      cases control with
      | dispatch => simp [State.result?] at hr
      | _ => rfl
    exact ⟨h.nodup, fun type => by rw [htypes]; exact h.mem_iff type⟩

/-- In every state of a session the plans that a manager keeps are those that its registry gives at
that moment, and it keeps one for each type that it has dispatched an event of since the registry
last changed, the announcement of the change included. The registry changes in the steps that bring
up such an announcement, and in no other. -/
theorem Reachable.cache_coherent {s : State ν} (hs : Reachable app s) (m : ManagerId) :
    (∀ type plan, (s.world.manager m).cache.find? type = some plan →
      plan = Plan.build app.hierarchy (app.maxDepth m) (s.world.manager m).registry type) ∧
    (∀ type, ((s.world.manager m).cache.find? type).isSome = true ↔ type ∈ s.typesSince m) ∧
    (s.world.manager m).cache.size = (s.typesSince m).dedup.length ∧
    (((s.step app).world.manager m).registry ≠ (s.world.manager m).registry
      ↔ (s.step app).announces m = true) := by
  have hrenewed := hs.renewed m
  refine ⟨?_, ?_, ?_, (s.move_step app).registry_ne_iff m⟩
  · intro type plan hplan
    exact (hs.sound m).cached hplan
  · intro type
    rw [Assoc.isSome_find?_iff]
    exact hrenewed.mem_iff type
  · have hsize : (s.world.manager m).cache.size = (s.world.manager m).cache.keys.length := by
      simp [Assoc.size, Assoc.keys]
    rw [hsize]
    apply List.Perm.length_eq
    rw [List.perm_ext_iff_of_nodup hrenewed.nodup (List.nodup_dedup _)]
    intro type
    rw [List.mem_dedup]
    exact hrenewed.mem_iff type

/-- A recruiter that, when it is called, adds a recruit for all events and fires an event of
another type. -/
def recruitment : Script.Cast where
  hierarchy := ⟨fun _ => none⟩
  names := ⟨fun _ => "Event", fun _ => .labelled "Event"⟩
  managers := [{}]
  roles := [
    some ⟨"Recruiter", false, [⟨⟨.invoke, .custom 0, "recruit"⟩, false,
      [⟨.act ⟨.add 1, 0, .direct⟩ false, 0, none, none⟩,
        ⟨.act ⟨.fire (.plain 1 "") .typed, 0, .direct⟩ false, 0, none, none⟩]⟩]⟩,
    some ⟨"Recruit", false, [⟨⟨.invoke, .any, "listen"⟩, false, []⟩]⟩]

/-- The state in which the recruiter has done so and has returned. -/
def recruitmentState : State Script.Note :=
  (State.start (World.after recruitment.application 20 {} [{ operation := .add 0 }])
    { operation := .fire (.plain 0 "") }).steps recruitment.application 35

/-- The event that the recruiter was called for is still under way, but the plan that it is
delivered by has been voided: what is at hand are the plans for the announcement of the recruit and
for the recruiter's own event. -/
theorem recruitment_voids_plan_under_way :
    Reachable recruitment.application recruitmentState ∧
      recruitmentState.control = .returned (.ok ()) ∧
      recruitmentState.typesSince 0 = [.observerAdded, .custom 1] ∧
      (recruitmentState.world.manager 0).cache.size = 2 ∧
      ((recruitmentState.world.manager 0).cache.find? (.custom 1)).isSome = true ∧
      ((recruitmentState.world.manager 0).cache.find? (.custom 0)).isSome = false := by
  have hs : Reachable recruitment.application recruitmentState :=
    (Reachable.after _ (fun _ => .start _) (by decide +kernel)).steps 35
  have htypes : recruitmentState.typesSince 0 = [.observerAdded, .custom 1] := by decide +kernel
  obtain ⟨-, hcached, hsize, -⟩ := hs.cache_coherent 0
  rw [htypes] at hcached hsize
  refine ⟨hs, by rfl, htypes, hsize, (hcached _).2 (by simp), ?_⟩
  rw [Bool.eq_false_iff, ne_eq, hcached]
  simp

end EventDispatch
