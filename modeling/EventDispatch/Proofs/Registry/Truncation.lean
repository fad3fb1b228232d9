import EventDispatch.Proofs.Delivery.Calls
import EventDispatch.Proofs.Event.Chain
import EventDispatch.Proofs.Registry.Admission

/-!
# Chains that are cut short

A type whose chain does not end within the bound is refused when a handler is bound to it, and when
an event of that type is dispatched the plan is built from a walk that is cut short, which is logged
as a warning. The two come to the same (`Hierarchy.walk_agrees_with_count`). No handler can be bound
to a type on a chain that never ends, so the events of such a type reach the handlers for all events
and no others (`Reachable.endless_reaches_wildcards`).
-/

set_option autoImplicit false

namespace EventDispatch

variable {ν : Type} {app : Application ν}

/-! ## The warning -/

/-- The warning that an entry of the journal logs, with its scope. -/
def Entry.warning? (names : Naming) (entry : Entry ν) : Option (Scope × Line) :=
  ((entry.fact.line? names).filter (·.level = .warn)).map (Prod.mk entry.scope)

/-- The warnings that have been logged, oldest first. -/
def World.warnings (names : Naming) (w : World ν) : List (Scope × Line) :=
  w.read (Entry.warning? names)

/-- The warning about a type whose chain is too long to be walked to its end. -/
def cutShortWarning (names : Naming) (t : EventType) (maxDepth : Nat) : Line :=
  ⟨.warn, "Ancestor chain exceeds the configured depth; handlers for deeper ancestors are skipped",
    [("event", .text (names.eventType t)), ("max_depth", .number maxDepth)]⟩

/-- A resolution that does not find its plan warns once of a chain that is too long. Any other
resolution does not warn. -/
theorem World.warnings_resolve (w : World ν) (app : Application ν) (scope : Scope) (t : EventType) :
    (w.resolve app scope t).2.warnings app.names = w.warnings app.names ++
      if (w.manager scope.manager).cache.find? t = none
          ∧ app.hierarchy.exceeds (app.maxDepth scope.manager) t = true
        then [(scope, cutShortWarning app.names t (app.maxDepth scope.manager))] else [] := by
  unfold resolve
  dsimp only
  cases hplan : (w.manager scope.manager).cache.find? t with
  | some plan => simp
  | none =>
    cases hexceeds : app.hierarchy.exceeds (app.maxDepth scope.manager) t with
    | true =>
      show (World.record _ _ _).read _ = _
      simp [warnings, Entry.warning?, Fact.line?, cutShortWarning, Option.filter]
    | false =>
      show (World.record _ _ _).read _ = _
      simp [warnings, Entry.warning?, Fact.line?, Option.filter]

/-- A dispatch warns as the resolution of its plan does. -/
theorem State.warnings_step_of_dispatch {s : State ν} {scope : Scope} {origin : Origin}
    {event : Event} (hdispatch : s.control = .dispatch scope origin event) :
    (s.step app).world.warnings app.names = s.world.warnings app.names ++
      if (s.world.manager scope.manager).cache.find? event.type = none
          ∧ app.hierarchy.exceeds (app.maxDepth scope.manager) event.type = true
        then [(scope, cutShortWarning app.names event.type (app.maxDepth scope.manager))]
        else [] := by
  rw [← World.warnings_resolve]
  obtain ⟨w, control, K⟩ := s
  obtain rfl : control = .dispatch scope origin event := hdispatch
  show (World.record _ _ _).read _ = World.read _ _
  rw [World.read_record]
  simp [Entry.warning?, Fact.line?, Option.filter]
  rfl

/-! ## The walk and the count -/

namespace Binding

variable {h : Hierarchy} {limit : Nat} {earlier : List Binding} {b : Binding}

/-- If the numbers of a count are never too great, a binding that claims what is free fits unless
its chain is too long. -/
theorem verdict_exact_of_free (hfree : ∀ a ∈ earlier, a.claim ≠ b.claim) :
    b.verdict .exact h limit earlier
      = if h.exceeds limit b.eventType then .breaks (.unresolvableEventType b.eventType limit)
        else .fits := by
  have hnone : earlier.find? (·.clashes b) = none := by
    simpa only [List.find?_eq_none, clashes_iff] using hfree
  rw [verdict, hnone]
  by_cases ht : b.eventType = .any
  · rw [ht, Hierarchy.count_any, Hierarchy.exceeds_any]
    rfl
  have hcounted : h.Counted ⊤ limit b.eventType (h.count .exact limit b.eventType) :=
    Hierarchy.counted_count Counter.exact_holdsUpTo ht
  generalize h.count .exact limit b.eventType = tally at hcounted
  cases hcounted with
  | length hn hlimit =>
    rw [if_neg]
    rw [Hierarchy.exceeds_iff ht, hn, not_lt, Nat.cast_le]
    exact hlimit
  | tooLong _ hlong => rw [if_pos ((Hierarchy.exceeds_iff ht).2 hlong)]
  | overflow hlimit => exact absurd hlimit (not_le.2 (ENat.natCast_lt_top _))

/-- The verdict is the same in words, unless these overflow. -/
theorem verdict_word_eq_exact (hfits : h.count .word limit b.eventType ≠ .overflow) :
    b.verdict .word h limit earlier = b.verdict .exact h limit earlier := by
  rw [verdict, verdict, Hierarchy.count_exact_eq hfits]

end Binding

/-- The bounded walk from a type gives the types of its chain, at most as many as the bound allows,
then the root, and then nothing; it has been cut short as soon as it has given the root, and only
then, if the chain is longer than the bound. The bounded count gives the length of every chain that
is not longer. So a binding to a type is refused for its chain exactly if a dispatch of an event of
that type warns when it does not find its plan; and this verdict is also the one in words, unless
these overflow. The walk from the root gives the root alone. -/
theorem Hierarchy.walk_agrees_with_count (h : Hierarchy) (limit : Nat) :
    (∀ t, t ≠ .any → ∃ k : ℕ, (k : ℕ∞) = min (h.chainLength t) limit ∧
      (∀ n < k, ∃ c, h.above? t n = some c ∧ (walk limit t).answer? h n = some c) ∧
      (walk limit t).answer? h k = some .any ∧
      (∀ n, k < n → (walk limit t).answer? h n = none) ∧
      (∀ n ≤ k, ((walk limit t).after h n).truncated = false) ∧
      (∀ n, k < n → (((walk limit t).after h n).truncated = true ↔ limit < h.chainLength t))) ∧
    (∀ t, t ≠ .any → (∀ n : ℕ, h.chainLength? limit t = some n ↔ n ≤ limit ∧ h.chainLength t = n) ∧
      (h.chainLength? limit t = none ↔ limit < h.chainLength t)) ∧
    (∀ t, h.chainLength? limit t = none ↔ h.exceeds limit t = true) ∧
    (∀ (ν : Type) (app : Application ν) (s : State ν) (scope : Scope) (origin : Origin)
      (event : Event), app.hierarchy = h → app.maxDepth scope.manager = limit →
      s.control = .dispatch scope origin event →
      (s.world.manager scope.manager).cache.find? event.type = none →
      ∀ (earlier : List Binding) (b : Binding), b.eventType = event.type →
      (∀ a ∈ earlier, a.claim ≠ b.claim) →
      (b.verdict .exact h limit earlier = .breaks (.unresolvableEventType event.type limit)
        ↔ (s.step app).world.warnings app.names = s.world.warnings app.names
          ++ [(scope, cutShortWarning app.names event.type limit)]) ∧
      (b.verdict .exact h limit earlier = .fits
        ↔ (s.step app).world.warnings app.names = s.world.warnings app.names) ∧
      (h.count .word limit event.type ≠ .overflow →
        b.verdict .word h limit earlier = b.verdict .exact h limit earlier)) ∧
    (walk limit .any).answer? h 0 = some .any ∧
    (∀ n, (walk limit .any).answer? h (n + 1) = none) ∧
    (∀ n, ((walk limit .any).after h n).truncated = false) ∧
    h.chainLength? limit .any = some 0 := by
  refine ⟨?_, ?_, ?_, ?_, rfl, ?_, ?_, rfl⟩
  · intro t ht
    obtain ⟨k, hk⟩ := h.exists_eq_min limit t
    have hstops := stopsAt_of_eq_min hk
    refine ⟨k, hk, ?_, Walk.answer?_eq_root ht hstops, ?_, ?_, ?_⟩
    · intro n hn
      obtain ⟨c, hc⟩ := Option.isSome_iff_exists.1 (hstops.goesOn n hn)
      exact ⟨c, hc, (Walk.answer?_of_lt ht hstops hn).trans hc⟩
    · intro n hn
      exact Walk.answer?_of_gt ht hstops hn
    · intro n hn
      rw [Walk.after_of_le ht hstops hn]
    · intro n hn
      rw [Walk.after_of_lt ht hstops hn]
      exact isSome_above?_min_iff hk
  · intro t ht
    exact ⟨fun n => chainLength?_eq_some_iff ht, chainLength?_eq_none_iff ht⟩
  · intro t
    exact chainLength?_eq_none_iff_exceeds
  · rintro ν app s scope origin event rfl rfl hdispatch hmiss earlier b hb hfree
    rw [← hb, State.warnings_step_of_dispatch hdispatch, ← hb]
    refine ⟨?_, ?_, Binding.verdict_word_eq_exact⟩
    · simp [Binding.verdict_exact_of_free hfree, hmiss, hb]
    · simp [Binding.verdict_exact_of_free hfree, hmiss, hb]
  · intro n
    rw [Walk.answer?, Walk.after_any]
    rfl
  · intro n
    cases n with
    | zero => rfl
    | succ n => rw [Walk.after_any]

/-- The chain of the first type runs into a cycle; that of the fourth has two types. -/
def whirl : Hierarchy where
  declared
    | 0 => some (.custom 1)
    | 1 => some (.custom 2)
    | 2 => some (.custom 1)
    | 3 => some (.custom 4)
    | _ => none

/-- A lookout for all events in two phases, and a clerk for a type whose chain ends. -/
def maelstrom : Script.Cast where
  hierarchy := whirl
  names := ⟨fun _ => "Event", fun _ => .labelled "Event"⟩
  managers := [{ maxDepth := 2 }]
  roles := [
    some ⟨"Lookout", false, [⟨⟨.before, .any, "warn"⟩, false, []⟩,
      ⟨⟨.invoke, .any, "watch"⟩, false, []⟩]⟩,
    some ⟨"Clerk", false, [⟨⟨.invoke, .custom 3, "file"⟩, false, []⟩]⟩]

/-- At a bound of two types the chain of two types is walked to its end, and the one that runs into
the cycle is cut short with the root: no handler can be bound to its type, and the first event of
that type that is dispatched gives a warning. -/
theorem whirl_cut_short_and_refused :
    whirl.chainLength (.custom 3) = (2 : ℕ) ∧
      (∀ n, 2 < n → ((Hierarchy.walk 2 (.custom 3)).after whirl n).truncated = false) ∧
      (2 : ℕ) < whirl.chainLength (.custom 0) ∧
      (∀ n, 2 < n → ((Hierarchy.walk 2 (.custom 0)).after whirl n).truncated = true) ∧
      whirl.exceeds 2 (.custom 0) = true ∧
      Binding.verdict .word whirl 2 [] ⟨.invoke, .custom 0, "watch"⟩
        = .breaks (.unresolvableEventType (.custom 0) 2) ∧
      ((State.start ({} : World Script.Note) { operation := .fire (.plain 0 "") }).steps
        maelstrom.application 3).world.warnings maelstrom.names
        = [(⟨0, 0⟩, cutShortWarning maelstrom.names (.custom 0) 2)] := by
  obtain ⟨hwalk, hcount, hexceeds, hwarns, -⟩ := Hierarchy.walk_agrees_with_count whirl 2
  have hends : whirl.chainLength (.custom 3) = (2 : ℕ) :=
    (((hcount (.custom 3) (by decide)).1 2).1 rfl).2
  have hlong : ((2 : ℕ) : ℕ∞) < whirl.chainLength (.custom 0) :=
    (hcount (.custom 0) (by decide)).2.1 rfl
  have hbroken : Binding.verdict .exact whirl 2 [] ⟨.invoke, .custom 0, "watch"⟩
      = .breaks (.unresolvableEventType (.custom 0) 2) := by
    decide
  have hfire := hwarns _ maelstrom.application
    ((State.start {} { operation := .fire (.plain 0 "") }).steps maelstrom.application 2) ⟨0, 0⟩
    .request (.plain 0 "") rfl rfl rfl rfl [] ⟨.invoke, .custom 0, "watch"⟩ rfl
    (List.forall_mem_nil _)
  refine ⟨hends, ?_, hlong, ?_, (hexceeds (.custom 0)).1 rfl,
    (hfire.2.2 (by decide)).trans hbroken, hfire.1.1 hbroken⟩
  · obtain ⟨k, hk, -, -, -, -, htruncated⟩ := hwalk (.custom 3) (by decide)
    rw [hends, min_self, Nat.cast_inj] at hk
    intro n hn
    rw [← Bool.not_eq_true, htruncated n (hk ▸ hn), hends]
    exact lt_irrefl _
  · obtain ⟨k, hk, -, -, -, -, htruncated⟩ := hwalk (.custom 0) (by decide)
    rw [min_eq_right (le_of_lt hlong), Nat.cast_inj] at hk
    intro n hn
    exact (htruncated n (hk ▸ hn)).2 hlong

/-! ## Chains that never end -/

/-- Whether the type of an object binds a handler for all events in a phase. -/
def Application.bindsRoot (app : Application ν) (p : Phase) (o : ObjectId) : Bool :=
  (app.observerType? o).any fun type => type.bindings.any fun b => b.phase = p && b.eventType = .any

/-- From no type on a chain that never ends is there an end of the chain. -/
theorem Hierarchy.endless_of_above? {h : Hierarchy} {t u : EventType} {n : Nat}
    (hendless : ∀ k, h.above? t k ≠ none) (hu : h.above? t n = some u) (k : Nat) :
    h.above? u k ≠ none := by
  intro hnone
  apply hendless (n + k)
  rw [above?_add, hu, Option.bind_some, hnone]

/-- The chain of a type that a handler is bound to ends within the bound. -/
theorem Member.MadeBelow.isSome_chainLength? {m : ManagerId} {limit : Nat} {member : Member}
    (h : member.MadeBelow app m limit) {b : BoundHandler} (hb : b ∈ member.bound) :
    (app.hierarchy.chainLength? (app.maxDepth m) b.eventType).isSome = true := by
  obtain ⟨type, firstId, -, hcheck, -, hmember⟩ := h
  rw [hmember] at hb
  obtain ⟨i, x, hx, rfl⟩ := (mem_handlers ..).1 (mem_handlers_of_mem_bound_build hb)
  exact Binding.isSome_chainLength?_of_check hcheck x (List.mem_of_getElem? hx)

section Endless

variable {m : ManagerId} {limit : Nat} {member : Member} {t : EventType}
  (hendless : ∀ n, app.hierarchy.above? t n ≠ none)

include hendless

theorem ne_any_of_endless : t ≠ .any := by
  rintro rfl
  exact hendless 1 rfl

/-- No handler is bound to a type on a chain that never ends. -/
theorem Member.MadeBelow.find?_eq_none (h : member.MadeBelow app m limit) (p : Phase)
    {u : EventType} {n : Nat} (hu : app.hierarchy.above? t n = some u) :
    (member.table p).find? u = none := by
  rw [Option.eq_none_iff_forall_ne_some]
  intro b hb
  have hsome := h.isSome_chainLength? (mem_bound.2 ⟨p, Assoc.mem_values_of_find? hb⟩)
  have hu := Hierarchy.endless_of_above? hendless hu
  rw [h.eventType_eq hb, Option.isSome_iff_ne_none, ne_eq,
    Hierarchy.chainLength?_eq_none_iff (ne_any_of_endless hu),
    Hierarchy.chainLength_eq_top_iff.2 hu] at hsome
  exact hsome (ENat.natCast_lt_top _)

/-- What a member offers for an event of such a type is its handler for all events. -/
theorem Member.MadeBelow.handler?_of_endless (h : member.MadeBelow app m limit) (p : Phase) :
    member.handler? app.hierarchy (app.maxDepth m) p t = (member.table p).find? .any := by
  unfold Member.handler?
  split
  · rename_i hempty
    rw [Assoc.find?, List.isEmpty_iff.1 hempty]
    rfl
  · rw [Hierarchy.search_eq, Hierarchy.ancestry_eq_lineage _ _ (ne_any_of_endless hendless),
      Hierarchy.lineage, List.findSome?_append]
    -- The walk finds nothing before it comes to the root.
    have hbelow : ((List.range (app.maxDepth m)).filterMap (app.hierarchy.above? t)).findSome?
        (member.table p).find? = none := by
      rw [List.findSome?_eq_none_iff]
      intro u hu
      obtain ⟨n, -, hn⟩ := List.mem_filterMap.1 hu
      exact h.find?_eq_none hendless p hn
    rw [hbelow]
    simp

end Endless

/-! ## Counting the handlers for all events -/

section Counting

variable {m : ManagerId} {limit : Nat}

/-- A member has a handler for all events in a phase exactly if its type binds one. -/
theorem Member.MadeBelow.isSome_find?_any {member : Member} (h : member.MadeBelow app m limit)
    (p : Phase) : ((member.table p).find? .any).isSome = app.bindsRoot p member.observer := by
  obtain ⟨type, firstId, htype, hcheck, -, hmember⟩ := h
  have hfind : (((Member.build member.observer type.name type.bindings firstId).table p).find?
        .any).map (·.binding)
      = type.bindings.findIdx? fun b => b.phase = p && b.eventType = .any :=
    Member.find?_table_build (Binding.pairwise_of_check hcheck) p .any
  rw [← hmember] at hfind
  rw [Application.bindsRoot, htype, Option.any_some, ← List.findIdx?_isSome, ← hfind,
    Option.isSome_map]

/-- Whether a handler is one of an object in a phase. -/
def BoundHandler.belongsTo (p : Phase) (o : ObjectId) (b : BoundHandler) : Bool :=
  b.descriptor.phase = p && b.observer = o

variable {t : EventType} (hendless : ∀ n, app.hierarchy.above? t n ≠ none)

include hendless

/-- A member contributes to a phase if its type binds a handler for all events in it. -/
theorem Member.MadeBelow.belongsTo_handler? {member : Member} (h : member.MadeBelow app m limit)
    (p q : Phase) (o : ObjectId) :
    ((member.handler? app.hierarchy (app.maxDepth m) p t).map (BoundHandler.belongsTo q o)).getD
        false = (p = q && (app.bindsRoot p o && member.observer = o)) := by
  rw [h.handler?_of_endless hendless]
  have hbinds := h.isSome_find?_any p
  cases hb : (member.table p).find? .any with
  | none =>
    rw [hb] at hbinds
    by_cases ho : member.observer = o
    · rw [← ho, ← hbinds]
      simp
    · simp [ho]
  | some b =>
    rw [hb] at hbinds
    have hobserver := h.observer_eq (mem_bound.2 ⟨p, Assoc.mem_values_of_find? hb⟩)
    rw [Option.map_some, Option.getD_some, BoundHandler.belongsTo, (h.stands hb).1, hobserver]
    by_cases ho : member.observer = o
    · rw [← ho, ← hbinds]
      simp
    · simp [ho]

/-- The plan for a type on a chain that never ends holds one handler for each phase and registered
object of which the object's type binds one for all events. -/
theorem ManagerState.Sound.countP_currentPlan {state : ManagerState} (h : state.Sound app m limit)
    (q : Phase) (o : ObjectId) :
    (state.currentPlan app m t).toList.countP (BoundHandler.belongsTo q o)
      = if o ∈ state.registry.objects ∧ app.bindsRoot q o = true then 1 else 0 := by
  have hphase (p : Phase) :
      (Plan.eligible app.hierarchy (app.maxDepth m) state.registry t p).countP
          (BoundHandler.belongsTo q o)
        = if p = q ∧ app.bindsRoot p o = true then state.registry.objects.count o else 0 := by
    have hmember : ∀ member ∈ state.registry,
        ((member.handler? app.hierarchy (app.maxDepth m) p t).map
          (BoundHandler.belongsTo q o)).getD false = true
        ↔ (p = q && (app.bindsRoot p o && member.observer = o)) = true := by
      intro member hmember
      rw [(h.made hmember).belongsTo_handler? hendless]
    rw [Plan.eligible, List.countP_filterMap, List.countP_congr hmember, Registry.objects,
      List.count, List.countP_map]
    by_cases hboth : p = q ∧ app.bindsRoot p o = true
    · rw [if_pos hboth, decide_eq_true hboth.1, hboth.2]
      rfl
    · rw [if_neg hboth, List.countP_eq_zero]
      simp only [Bool.and_eq_true, decide_eq_true_eq]
      exact fun member _ hall => hboth ⟨hall.1, hall.2.1⟩
  have hcount : state.registry.objects.count o = _ := h.nodup.count
  rw [currentPlan, Plan.toList_build, Phase.all, List.flatMap_cons, List.flatMap_cons,
    List.flatMap_cons, List.countP_append, List.countP_append, List.countP_append, hphase, hphase,
    hphase, hcount]
  by_cases ho : o ∈ state.registry.objects <;> cases q <;> simp [ho]

end Counting

/-- In every state of a session, the plan for a type whose chain never ends holds handlers for all
events only, one for each phase and registered object of which the object's type binds one. Its
resolution warns once if the plan is not at hand and does not warn if it is, and a dispatch of an
event of the type delivers the event by this plan and gives no other warning. -/
theorem Reachable.endless_reaches_wildcards {s : State ν} (hs : Reachable app s) (scope : Scope)
    {t : EventType} (hendless : ∀ n, app.hierarchy.above? t n ≠ none) :
    (∀ b ∈ (s.world.resolve app scope t).1.toList, b.eventType = .any ∧
      ∃ member ∈ (s.world.manager scope.manager).registry, b ∈ member.bound) ∧
    (∀ p o, (s.world.resolve app scope t).1.toList.countP (BoundHandler.belongsTo p o)
      = if o ∈ (s.world.manager scope.manager).registry.objects ∧ app.bindsRoot p o = true
        then 1 else 0) ∧
    ((s.world.resolve app scope t).2.warnings app.names = s.world.warnings app.names ++
      if (s.world.manager scope.manager).cache.find? t = none
        then [(scope, cutShortWarning app.names t (app.maxDepth scope.manager))] else []) ∧
    ∀ origin event, s.control = .dispatch scope origin event → event.type = t →
      (s.step app).control
        = .deliver scope ⟨s.world.nextDispatch, event⟩ (s.world.resolve app scope t).1.toList ∧
      (s.step app).world.warnings app.names
        = (s.world.resolve app scope t).2.warnings app.names := by
  have hsound := hs.sound scope.manager
  have hexceeds : app.hierarchy.exceeds (app.maxDepth scope.manager) t = true := by
    rw [Hierarchy.exceeds_iff (ne_any_of_endless hendless),
      Hierarchy.chainLength_eq_top_iff.2 hendless]
    exact ENat.natCast_lt_top _
  refine ⟨?_, ?_, ?_, ?_⟩
  · rw [hs.sound.resolve_eq]
    intro b hb
    obtain ⟨member, hmember, hbound⟩ := ManagerState.mem_of_mem_currentPlan hb
    refine ⟨?_, member, hmember, hbound⟩
    by_contra hany
    -- A type above `t` would be one that no handler can be bound to.
    have hisA := hsound.isA_of_mem_currentPlan hb
    rw [Hierarchy.isA_iff_exists_above? (ne_any_of_endless hendless) hany] at hisA
    obtain ⟨n, -, hn⟩ := hisA
    have hsome := (hsound.made hmember).isSome_chainLength? hbound
    have hbeyond := Hierarchy.endless_of_above? hendless hn
    rw [Option.isSome_iff_ne_none, ne_eq, Hierarchy.chainLength?_eq_none_iff hany,
      Hierarchy.chainLength_eq_top_iff.2 hbeyond] at hsome
    exact hsome (ENat.natCast_lt_top _)
  · rw [hs.sound.resolve_eq]
    exact hsound.countP_currentPlan hendless
  · rw [World.warnings_resolve, hexceeds]
    simp
  · rintro origin event hdispatch rfl
    refine ⟨?_, ?_⟩
    · rw [(s.move_step app).of_dispatch hdispatch]
    · rw [State.warnings_step_of_dispatch hdispatch, World.warnings_resolve]

/-- Both are added, and then events of the type that runs into the cycle are fired. -/
def maelstromCommands (fires : Nat) : List Command :=
  { operation := .add 0 } :: { operation := .add 1 }
    :: List.replicate fires { operation := .fire (.plain 0 "") }

/-- The state in which one more event of that type is about to be dispatched. -/
def maelstromState (fires : Nat) : State Script.Note :=
  (State.start (World.after maelstrom.application 40 {} (maelstromCommands fires))
    { operation := .fire (.plain 0 "") }).steps maelstrom.application 2

theorem whirl_endless (n : Nat) : whirl.above? (.custom 0) n ≠ none := by
  have hbelow : ∃ i < 3, whirl.above? (.custom 0) n = some (.custom i) := by
    induction n with
    | zero => exact ⟨0, by decide, rfl⟩
    | succ n ih =>
      obtain ⟨i, hi, habove⟩ := ih
      have hnext : ∀ i < 3, ∃ j < 3, whirl.parent? (.custom i) = some (.custom j) := by decide
      obtain ⟨j, hj, hparent⟩ := hnext i hi
      exact ⟨j, hj, by rw [Hierarchy.above?, habove, Option.bind_some, hparent]⟩
  obtain ⟨i, -, habove⟩ := hbelow
  rw [habove]
  exact Option.some_ne_none _

/-- The event goes to the two handlers of the lookout. Its first dispatch warns, its second does
not. -/
theorem maelstrom_reaches_lookout_only :
    (maelstromState 0).control = .dispatch ⟨0, 0⟩ .request (.plain 0 "") ∧
      (∀ p, ((maelstromState 0).world.resolve maelstrom.application ⟨0, 0⟩
        (.custom 0)).1.toList.countP (BoundHandler.belongsTo p 0) = if p = .after then 0 else 1) ∧
      (∀ p, ((maelstromState 0).world.resolve maelstrom.application ⟨0, 0⟩
        (.custom 0)).1.toList.countP (BoundHandler.belongsTo p 1) = 0) ∧
      ((maelstromState 0).step maelstrom.application).world.warnings maelstrom.application.names
        = [(⟨0, 0⟩, cutShortWarning maelstrom.application.names (.custom 0) 2)] ∧
      ((maelstromState 1).step maelstrom.application).world.warnings maelstrom.application.names
        = [(⟨0, 0⟩, cutShortWarning maelstrom.application.names (.custom 0) 2)] := by
  have hs (fires : Nat) (hends : World.finishes maelstrom.application 40 {}
      (maelstromCommands fires) = true) : Reachable maelstrom.application (maelstromState fires) :=
    (Reachable.after _ (fun _ => .start _) hends).steps 2
  obtain ⟨-, hcount, hwarnings, hdispatch⟩ :=
    (hs 0 (by decide +kernel)).endless_reaches_wildcards ⟨0, 0⟩ whirl_endless
  obtain ⟨-, -, hwarnings', hdispatch'⟩ :=
    (hs 1 (by decide +kernel)).endless_reaches_wildcards ⟨0, 0⟩ whirl_endless
  refine ⟨rfl, ?_, ?_, ?_, ?_⟩
  · intro p
    rw [hcount]
    cases p <;> decide +kernel
  · intro p
    rw [hcount]
    cases p <;> decide +kernel
  · rw [(hdispatch .request (.plain 0 "") rfl rfl).2, hwarnings]
    rfl
  · rw [(hdispatch' .request (.plain 0 "") rfl rfl).2, hwarnings']
    rfl

end EventDispatch
