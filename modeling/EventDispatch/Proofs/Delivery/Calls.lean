import EventDispatch.Proofs.Delivery.Reference
import EventDispatch.Proofs.Event.Agreement

/-!
# Calls of handlers

An attempt calls its handler exactly if the event holds the part that the handler asks for, and with
that part (`Reachable.calls_eq`), so the registered objects and the event decide who is called with
what (`Reachable.audience_eq`). An attempt fails as a mismatch only if the part is missing
(`Reachable.misses`). Handlers are attempted only for events that belong to the type that they are
bound to (`Reachable.fitting`), and a well-formed event that belongs to a type holds a part of it,
so an attempt on a well-formed event never fails as a mismatch (`Reachable.parts_received`).
-/

set_option autoImplicit false

namespace EventDispatch

variable {ν : Type} {app : Application ν}

/-! ## Calls -/

/-- A call of a handler: the attempt that it belongs to and the part of the event that the handler
is given. -/
structure Call where
  attempt : Attempt
  part : Event
  deriving DecidableEq, Repr

/-- The call that an entry of the journal is about. -/
def Entry.call? : Entry ν → Option Call
  | ⟨scope, .called delivery handler part⟩ => some ⟨⟨scope, delivery, handler⟩, part⟩
  | _ => none

/-- All calls so far, oldest first. -/
def State.calls (s : State ν) : List Call := s.world.read Entry.call?

/-- The part of its event that an attempt gives to its handler. -/
def Attempt.part? (app : Application ν) (a : Attempt) : Option Event :=
  a.delivery.event.part? (app.maxDepth a.scope.manager) a.handler.eventType

/-- The call that an attempt makes. -/
def Attempt.call? (app : Application ν) (a : Attempt) : Option Call :=
  (a.part? app).map (Call.mk a)

theorem skipsRoutine_call? : World.SkipsRoutine (Entry.call? : Entry ν → Option Call) := by
  intro scope fact h
  cases fact with
  | called => exact Bool.noConfusion h
  | _ => rfl

/-- An attempt and the call that it makes are entered together. -/
theorem Move.calls_cases {s t : State ν} (h : Move app s t) :
    (t.attempts = s.attempts ∧ t.calls = s.calls) ∨
      ∃ a : Attempt, t.attempts = s.attempts ++ [a] ∧
        t.calls = s.calls ++ (a.call? app).toList := by
  have hattempt : World.SkipsRoutine (Entry.attempt? : Entry ν → Option Attempt) :=
    skipsRoutine_attempt?
  have hcall : World.SkipsRoutine (Entry.call? : Entry ν → Option Call) := skipsRoutine_call?
  cases h with
  | attempt w scope delivery b rest part K hpart =>
    right
    refine ⟨⟨scope, delivery, b⟩, by simp [State.attempts, Entry.attempt?], ?_⟩
    have hmade : Attempt.call? app ⟨scope, delivery, b⟩ = some ⟨⟨scope, delivery, b⟩, part⟩ := by
      rw [Attempt.call?, Attempt.part?, hpart]
      rfl
    rw [hmade]
    simp [State.calls, Entry.call?]
  | mismatch w scope delivery b rest K hpart =>
    right
    refine ⟨⟨scope, delivery, b⟩, by simp [State.attempts, Entry.attempt?], ?_⟩
    have hmade : Attempt.call? app ⟨scope, delivery, b⟩ = none := by
      rw [Attempt.call?, Attempt.part?, hpart]
      rfl
    rw [hmade]
    simp [State.calls, Entry.call?]
  | dispatch w scope origin event K =>
    left
    exact ⟨(w.read_launch scope hattempt app origin event).trans (List.append_nil _),
      (w.read_launch scope hcall app origin event).trans (List.append_nil _)⟩
  | kept w scope operation k fs reply K hop hfs | stall w scope operation k fs K hop hfs =>
    left
    exact ⟨w.read_chronicle scope hattempt hfs k, w.read_chronicle scope hcall hfs k⟩
  | joined w scope operation o type fs K hop htype hcheck hnew hfs =>
    left
    constructor
    · rw [State.attempts, World.read_enter, w.read_join scope hattempt hfs]
      rfl
    · rw [State.calls, World.read_enter, w.read_join scope hcall hfs]
      rfl
  | parted w scope operation o member fs K hop hmember hfs =>
    left
    constructor
    · rw [State.attempts, World.read_enter, w.read_part scope hattempt hfs]
      rfl
    · rw [State.calls, World.read_enter, w.read_part scope hcall hfs]
      rfl
  | spawned => exact .inl ⟨rfl, rfl⟩
  | rest => exact .inl ⟨rfl, rfl⟩
  | _ => exact .inl ⟨by simp [State.attempts, Entry.attempt?], by simp [State.calls, Entry.call?]⟩

/-- Attempts stay in the journal. -/
theorem Move.attempts_grow {s t : State ν} (h : Move app s t) : s.attempts <+: t.attempts := by
  rcases h.calls_cases with ⟨hattempts, -⟩ | ⟨a, hattempts, -⟩
  · exact ⟨[], (List.append_nil _).trans hattempts.symm⟩
  · exact ⟨[a], hattempts.symm⟩

/-- The calls are those that the attempts make, in the same order. -/
theorem Reachable.calls_eq {s : State ν} (hs : Reachable app s) :
    s.calls = s.attempts.filterMap (Attempt.call? app) := by
  apply hs.induction (P := fun s => s.calls = s.attempts.filterMap (Attempt.call? app))
  · intro command
    rfl
  · intro s t _ hmove h
    rcases hmove.calls_cases with ⟨hattempts, hcalls⟩ | ⟨a, hattempts, hcalls⟩
    · rw [hattempts, hcalls, h]
    · rw [hattempts, hcalls, h, List.filterMap_append]
      cases ha : a.call? app <;> simp [ha]
  · intro s r command _ _ h
    exact h

theorem Reachable.mem_calls_iff {s : State ν} (hs : Reachable app s) {a : Attempt} {part : Event} :
    ⟨a, part⟩ ∈ s.calls ↔ a ∈ s.attempts ∧ a.part? app = some part := by
  rw [hs.calls_eq, List.mem_filterMap]
  constructor
  · rintro ⟨a', ha', hcall⟩
    obtain ⟨part', hpart, heq⟩ := Option.map_eq_some_iff.1 hcall
    cases heq
    exact ⟨ha', hpart⟩
  · rintro ⟨ha, hpart⟩
    exact ⟨a, ha, by rw [Attempt.call?, hpart, Option.map_some]⟩

/-! ## Who is given what -/

/-- A failure and the attempt that it ends. -/
structure Miss where
  attempt : Attempt
  failure : Failure
  deriving DecidableEq, Repr

/-- The failure that an entry of the journal is about. -/
def Entry.miss? : Entry ν → Option Miss
  | ⟨scope, .failed delivery handler failure⟩ => some ⟨⟨scope, delivery, handler⟩, failure⟩
  | _ => none

/-- The failure that a control is about to enter into the journal. -/
def Control.miss? : Control ν → Option Miss
  | .fail scope delivery handler failure _ => some ⟨⟨scope, delivery, handler⟩, failure⟩
  | _ => none

/-- All failures so far, oldest first. -/
def State.misses (s : State ν) : List Miss :=
  s.world.read Entry.miss? ++ s.control.miss?.toList

/-- Whether a failure is a mismatch only if its attempt has been made and the event lacks the part
that the handler asks for. -/
def Miss.Justified (app : Application ν) (s : State ν) (x : Miss) : Prop :=
  x.failure.isMechanical = true → x.attempt ∈ s.attempts ∧ x.attempt.part? app = none

theorem skipsRoutine_miss? : World.SkipsRoutine (Entry.miss? : Entry ν → Option Miss) := by
  intro scope fact h
  cases fact with
  | failed => exact Bool.noConfusion h
  | _ => rfl

/-- A step enters the failure that the control was about to enter, and no other. -/
theorem Move.read_miss? {s t : State ν} (h : Move app s t) :
    t.world.read Entry.miss? = s.misses := by
  have hf : World.SkipsRoutine (Entry.miss? : Entry ν → Option Miss) := skipsRoutine_miss?
  cases h with
  | dispatch w scope origin event K => exact w.read_launch scope hf app origin event
  | kept _ _ _ _ _ _ _ _ hfs | stall _ _ _ _ _ _ _ hfs =>
    simp [State.misses, World.read_chronicle _ _ hf hfs, Control.miss?]
  | joined _ _ _ _ _ _ _ _ _ _ _ hfs =>
    simp [State.misses, World.read_join _ _ hf hfs, Control.miss?]
  | parted _ _ _ _ _ _ _ _ _ hfs =>
    simp [State.misses, World.read_part _ _ hf hfs, Control.miss?]
  | spawned => exact (List.append_nil _).symm
  | rest w control K hended =>
    cases control with
    | fail => cases hended
    | _ => exact (List.append_nil _).symm
  | _ => simp [State.misses, Control.miss?, Entry.miss?]

/-- What a step leaves to be entered as a failure is a mismatch only if the step has just made the
attempt, on an event that lacks the part. -/
theorem Move.justified {s t : State ν} (h : Move app s t) {x : Miss}
    (hx : t.control.miss? = some x) : x.Justified app t := by
  cases h with
  | mismatch w scope delivery b rest K hpart =>
    cases hx
    intro _
    refine ⟨?_, hpart⟩
    simp [State.attempts, Entry.attempt?]
  | failed | panicked =>
    cases hx
    intro hmechanical
    cases hmechanical
  | rest w control K hended =>
    cases control with
    | fail => cases hended
    | _ => cases hx
  | _ => cases hx

/-- A failure is a mismatch only if its attempt has been made and the event lacks the part that the
handler asks for. -/
theorem Reachable.misses {s : State ν} (hs : Reachable app s) :
    ∀ x ∈ s.misses, x.Justified app s := by
  apply hs.induction (P := fun s => ∀ x ∈ s.misses, x.Justified app s)
  · intro command x hx
    cases hx
  · intro s t _ hmove h x hx
    rw [State.misses, hmove.read_miss?] at hx
    rcases List.mem_append.1 hx with hold | hnew
    · intro hmechanical
      obtain ⟨hmade, hpart⟩ := h x hold hmechanical
      exact ⟨hmove.attempts_grow.subset hmade, hpart⟩
    · exact hmove.justified (Option.mem_toList.1 hnew)
  · intro s r command _ _ h x hx
    have hread : x ∈ s.world.read Entry.miss? := by
      simpa [State.misses, State.start, Control.miss?] using hx
    exact h x (List.mem_append_left _ hread)

/-! ## Handlers that fit -/

/-- A handler stands in the table of its phase, under the type that it is bound to. -/
theorem Member.MadeBelow.stands {m : ManagerId} {limit : Nat} {member : Member}
    (h : member.MadeBelow app m limit) {p : Phase} {t : EventType} {b : BoundHandler}
    (hb : (member.table p).find? t = some b) : b.descriptor.phase = p ∧ b.eventType = t := by
  obtain ⟨type, firstId, -, hcheck, -, hmember⟩ := h
  have hempty : (({ observer := member.observer, observerType := type.name } : Member).table
      p).find? t = none := by
    cases p <;> rfl
  rw [hmember, Member.build, Member.find?_table_foldl_bind
    (Member.pairwise_handlers (Binding.pairwise_of_check hcheck)), hempty, Option.or_none] at hb
  have hclaims := List.find?_some hb
  simpa only [Bool.and_eq_true, decide_eq_true_eq] using hclaims

theorem Member.MadeBelow.eventType_eq {m : ManagerId} {limit : Nat} {member : Member}
    (h : member.MadeBelow app m limit) {p : Phase} {t : EventType} {b : BoundHandler}
    (hb : (member.table p).find? t = some b) : b.eventType = t :=
  (h.stands hb).2

/-- A member offers the handler that stands in its table for a type for the events of that type. -/
theorem Member.handler?_of_find? {member : Member} {h : Hierarchy} {maxDepth : Nat} {p : Phase}
    {t : EventType} {b : BoundHandler} (hdepth : 0 < maxDepth) (hany : t ≠ .any)
    (hfind : (member.table p).find? t = some b) : member.handler? h maxDepth p t = some b := by
  obtain ⟨above, hwalk⟩ := h.exists_ancestry_eq_cons hdepth hany
  unfold handler?
  split
  · -- A table in which something is found is not empty.
    rename_i hempty
    rw [Assoc.find?, List.isEmpty_iff.1 hempty] at hfind
    cases hfind
  · rw [h.search_eq, hwalk, List.findSome?_cons_of_isSome (by rw [hfind]; rfl), hfind]

/-- The handlers of a plan are bound to types that its events belong to. -/
theorem ManagerState.Sound.isA_of_mem_currentPlan {m : ManagerId} {limit : Nat}
    {state : ManagerState} (h : state.Sound app m limit) {t : EventType} {b : BoundHandler}
    (hb : b ∈ (state.currentPlan app m t).toList) :
    app.hierarchy.isA (app.maxDepth m) t b.eventType = true := by
  rw [currentPlan, Plan.toList_build, List.mem_flatMap] at hb
  obtain ⟨p, -, hb⟩ := hb
  obtain ⟨member, hmember, hhandler⟩ := List.mem_filterMap.1 hb
  unfold Member.handler? at hhandler
  split at hhandler
  · cases hhandler
  · rw [Hierarchy.search_eq] at hhandler
    obtain ⟨u, hu, hfind⟩ := List.exists_of_findSome?_eq_some hhandler
    rw [Hierarchy.isA_iff, (h.made hmember).eventType_eq hfind]
    exact hu

/-- Whether the event of an attempt belongs to the type that its handler is bound to. -/
def Attempt.Fits (app : Application ν) (a : Attempt) : Prop :=
  a.delivery.event.isA app.hierarchy (app.maxDepth a.scope.manager) a.handler.eventType = true

/-- Attempts are made, and will be made, of handlers that fit. -/
structure State.Fitting (app : Application ν) (s : State ν) : Prop where
  pending : ∀ p ∈ s.pending, ∀ b ∈ p.rest, Attempt.Fits app ⟨p.scope, p.delivery, b⟩
  attempts : ∀ a ∈ s.attempts, a.Fits app

theorem Advances.fitting {s t : State ν} (h : Advances app s t) (hsound : s.world.Sound app)
    (hs : s.Fitting app) : t.Fitting app := by
  cases h with
  | idle hpending hattempts hnext =>
    exact ⟨hpending ▸ hs.pending, hattempts ▸ hs.attempts⟩
  | begun scope event hpending hattempts hnext =>
    constructor
    · rw [hpending, List.forall_mem_cons]
      refine ⟨?_, hs.pending⟩
      intro b hb
      rw [hsound.resolve_eq] at hb
      exact (hsound _).isA_of_mem_currentPlan hb
    · rw [hattempts]
      exact hs.attempts
  | attempted hbefore hpending hattempts hnext =>
    have hhead := hs.pending
    rw [hbefore, List.forall_mem_cons] at hhead
    constructor
    · rw [hpending, List.forall_mem_cons]
      exact ⟨(List.forall_mem_cons.1 hhead.1).2, hhead.2⟩
    · rw [hattempts]
      intro a ha
      rcases List.mem_append.1 ha with hold | hnew
      · exact hs.attempts a hold
      · rw [List.mem_singleton.1 hnew]
        exact (List.forall_mem_cons.1 hhead.1).1
  | completed hbefore hpending hcontrol hattempts hnext =>
    have hhead := hs.pending
    rw [hbefore, List.forall_mem_cons] at hhead
    exact ⟨hpending ▸ hhead.2, hattempts ▸ hs.attempts⟩
  | abandoned hbefore hpending hcontrol hattempts hnext =>
    have hhead := hs.pending
    rw [hbefore, List.forall_mem_cons] at hhead
    exact ⟨hpending ▸ hhead.2, hattempts ▸ hs.attempts⟩

theorem Reachable.fitting {s : State ν} (hs : Reachable app s) : s.Fitting app := by
  have hidle (w : World ν) (command : Command) : ∀ p ∈ (State.start w command).pending,
      ∀ b ∈ p.rest, Attempt.Fits app ⟨p.scope, p.delivery, b⟩ := by
    intro p hp
    simp [State.pending, State.start, Control.pending?] at hp
  apply hs.induction (P := State.Fitting app)
  · intro command
    refine ⟨hidle _ _, ?_⟩
    intro a ha
    cases ha
  · intro s t hs hmove h
    exact hmove.advances.fitting hs.sound h
  · intro s r command _ _ h
    exact ⟨hidle _ _, h.attempts⟩

/-! ## Well-formed events -/

/-- What the handler of an attempt is to be given: the whole event if the handler is bound to the
universal root, and otherwise the part that lies as deep in the event as the type that the handler
is bound to stands above that of the event. -/
def Attempt.IsDue (app : Application ν) (a : Attempt) (part : Event) : Prop :=
  if a.handler.eventType = .any then part = a.delivery.event
  else a.delivery.event.LiesAt app.hierarchy a.handler.eventType part

/-- A handler that fits a well-formed event is given what it is due. -/
theorem Attempt.Fits.exists_part? {a : Attempt} (hfits : a.Fits app)
    (hwell : a.delivery.event.WellFormed app.hierarchy) :
    ∃ part, a.part? app = some part ∧ a.IsDue app part := by
  rw [Attempt.part?, Event.part?]
  by_cases hany : a.handler.eventType = .any
  · refine ⟨a.delivery.event, if_pos hany, ?_⟩
    rw [Attempt.IsDue, if_pos hany]
  · have hfound := (hwell.isSome_ancestor?_iff hany _).2 hfits
    obtain ⟨part, hpart⟩ := Option.isSome_iff_exists.1 hfound
    refine ⟨part, (if_neg hany).trans hpart, ?_⟩
    rw [Attempt.IsDue, if_neg hany]
    exact hwell.liesAt hpart

/-- Walking up the declared types and walking into a well-formed value agree at every bound: a part
of some type is found exactly if the value is of that type by declaration, and it lies as deep in
the value as its type stands above that of the value. Hence an attempt on a well-formed event calls
its handler with what the handler is due, and does not fail as a mismatch. -/
theorem Reachable.parts_received {s : State ν} (hs : Reachable app s) :
    (∀ event : Event, event.WellFormed app.hierarchy → ∀ (limit : Nat) (t : EventType), t ≠ .any →
      ((event.ancestor? limit t).isSome = true ↔ event.isA app.hierarchy limit t = true) ∧
      ∀ part, event.ancestor? limit t = some part → event.LiesAt app.hierarchy t part) ∧
    (∀ a ∈ s.attempts, a.delivery.event.WellFormed app.hierarchy →
      ∃ part, a.IsDue app part ∧ ∀ part', ⟨a, part'⟩ ∈ s.calls ↔ part' = part) ∧
    ∀ x ∈ s.misses, x.attempt.delivery.event.WellFormed app.hierarchy →
      x.failure.isMechanical = false := by
  refine ⟨?_, ?_, ?_⟩
  · intro event hwell limit t ht
    exact ⟨hwell.isSome_ancestor?_iff ht limit, fun part hpart => hwell.liesAt hpart⟩
  · intro a ha hwell
    obtain ⟨part, hpart, hdue⟩ := (hs.fitting.attempts a ha).exists_part? hwell
    refine ⟨part, hdue, ?_⟩
    intro part'
    rw [hs.mem_calls_iff, hpart]
    constructor
    · rintro ⟨-, heq⟩
      exact (Option.some.inj heq).symm
    · rintro rfl
      exact ⟨ha, rfl⟩
  · intro x hx hwell
    cases hmechanical : x.failure.isMechanical with
    | false => rfl
    | true =>
      obtain ⟨hmade, hnone⟩ := hs.misses x hx hmechanical
      obtain ⟨part, hpart, -⟩ := (hs.fitting.attempts _ hmade).exists_part? hwell
      rw [hnone] at hpart
      cases hpart

/-- A chain of types that goes on above the bound of the manager, and an observer of every event, of
the last type within the bound and of the first one beyond it. -/
def boundary : Script.Cast where
  hierarchy := ⟨fun i => if i = 0 then none else some (.custom (i - 1))⟩
  names := ⟨fun _ => "Event", fun _ => .labelled "Event"⟩
  managers := [{ maxDepth := 2 }]
  roles := [
    some ⟨"Surveyor", false, [⟨⟨.before, .any, "whole"⟩, false, []⟩,
      ⟨⟨.invoke, .custom 1, "within"⟩, false, []⟩, ⟨⟨.after, .custom 0, "beyond"⟩, false, []⟩]⟩]

/-- An event of three types. -/
def boundaryEvent : Event := .extending 2 "" (.extending 1 "" (.plain 0 ""))

/-- The state in which the event has been fired. -/
def boundaryState : State Script.Note :=
  (State.start (World.after boundary.application 20 {} [{ operation := .add 0 }])
    { operation := .fire boundaryEvent }).steps boundary.application 20

/-- The handler at the bound is given the part of its type, and the one beyond the bound is not
attempted. -/
theorem part_at_boundary_received :
    Reachable boundary.application boundaryState ∧
      boundaryEvent.WellFormed boundary.application.hierarchy ∧
      (boundaryEvent.ancestor? 2 (.custom 1)).isSome = true ∧
      (boundaryEvent.ancestor? 2 (.custom 0)).isSome = false ∧
      boundaryState.attempts.map (·.handler.eventType) = [.any, .any, .custom 1] ∧
      ∃ a ∈ boundaryState.attempts, a.handler.eventType = .custom 1 ∧
        ∀ part, ⟨a, part⟩ ∈ boundaryState.calls ↔ part = .extending 1 "" (.plain 0 "") := by
  have hs : Reachable boundary.application boundaryState :=
    (Reachable.after _ (fun _ => .start _) (by decide +kernel)).steps 20
  have hwell : boundaryEvent.WellFormed boundary.application.hierarchy := by decide +kernel
  obtain ⟨hwalks, hcalls, -⟩ := hs.parts_received
  have htypes : boundaryState.attempts.map (·.handler.eventType) = [.any, .any, .custom 1] := by
    decide +kernel
  refine ⟨hs, hwell, ?_, ?_, htypes, ?_⟩
  · exact (hwalks boundaryEvent hwell 2 (.custom 1) (by decide)).1.2 (by decide +kernel)
  · rw [Bool.eq_false_iff, ne_eq, (hwalks boundaryEvent hwell 2 (.custom 0) (by decide)).1]
    decide +kernel
  · have hmem : ∃ a ∈ boundaryState.attempts,
        a.handler.eventType = .custom 1 ∧ a.delivery.event = boundaryEvent := by
      decide +kernel
    obtain ⟨a, ha, htype, hevent⟩ := hmem
    obtain ⟨part, hdue, hpart⟩ := hcalls a ha (by rwa [hevent])
    rw [Attempt.IsDue, if_neg (by rw [htype]; decide), htype, hevent] at hdue
    obtain ⟨n, -, hdepth, habove⟩ := hdue
    -- The type is one step above that of the event, so the part is one step inside the event.
    rw [← hdepth 1 (by rfl)] at habove
    cases habove
    exact ⟨a, ha, htype, hpart⟩

end EventDispatch
