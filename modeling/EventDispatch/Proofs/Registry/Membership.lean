import EventDispatch.Proofs.Machine.Session
import EventDispatch.Proofs.Registry.Resolution

/-!
# The journal of membership

The registry of a manager is a list of objects without repetition, in the order in which they were
added, and the manager's announcements are its exact journal: replayed from the empty list on, they
never add an object that is there, never remove one that is not, and give the registered objects,
except for the change that is about to be announced. An operation that is asked for a change answers
`true` if it has made the change and announced it, and otherwise leaves the registry alone
(`Reachable.membership_journal`).
-/

set_option autoImplicit false

namespace EventDispatch

variable {ν : Type} {app : Application ν}

/-! ## Announcements that fit -/

/-- The list of registered objects after the change that an event announces, if the change can be
made: what is added is not registered before, what is removed is. No other event announces one. -/
def Event.enroll? (objects : List ObjectId) : Event → Option (List ObjectId)
  | .observerAdded o _ => if o ∈ objects then none else some (objects ++ [o])
  | .observerRemoved o _ => if o ∈ objects then some (objects.erase o) else none
  | _ => none

namespace Event

/-- What an announcement that can be made does to the registered objects. -/
inductive Enrolls (objects objects' : List ObjectId) : Event → Prop
  | added {o : ObjectId} {name : String} (hnew : o ∉ objects) (heq : objects' = objects ++ [o]) :
      Enrolls objects objects' (.observerAdded o name)
  | removed {o : ObjectId} {name : String} (hold : o ∈ objects)
      (heq : objects' = objects.erase o) : Enrolls objects objects' (.observerRemoved o name)

theorem enrolls_of_enroll? {event : Event} {objects objects' : List ObjectId}
    (h : event.enroll? objects = some objects') :
    event.Enrolls objects objects' := by
  cases event with
  | observerAdded o name =>
    rw [enroll?] at h
    split at h
    · cases h
    · rename_i hnew
      exact .added hnew (Option.some.inj h).symm
  | observerRemoved o name =>
    rw [enroll?] at h
    split at h
    · rename_i hold
      exact .removed hold (Option.some.inj h).symm
    · cases h
  | plain | extending | observerFailed => cases h

end Event

/-- The list of a manager's registered objects after a dispatch has begun, if the dispatch announces
no change of the manager or one that can be made. -/
def Begun.enroll? (m : ManagerId) (objects : List ObjectId) (d : Begun) :
    Option (List ObjectId) :=
  if d.announces m then d.event.enroll? objects else some objects

/-- The announcements in a manager's journal replayed from the empty list on, if each of them can be
made when its turn comes. -/
def World.enrolled? (m : ManagerId) (w : World ν) : Option (List ObjectId) :=
  (w.read Entry.begun?).foldlM (Begun.enroll? m) []

/-- The event by which an operation announces its change of an object of the observer type
`observerType`. -/
def Operation.announcement? (observerType : String) : Operation → Option Event
  | .add o | .addComponent o => some (.observerAdded o observerType)
  | .remove o | .removeComponent o => some (.observerRemoved o observerType)
  | _ => none

section Changes

variable {w : World ν} {scope : Scope} {o : ObjectId}

/-- The announcement of an object that has been registered fits. -/
theorem World.enroll?_join (hnew : (w.manager scope.manager).registry.holds o = false)
    (type : ObserverType) (fs : List (Fact ν)) :
    (Event.observerAdded o type.name).enroll? (w.manager scope.manager).registry.objects
      = some ((w.join scope o type fs).manager scope.manager).registry.objects := by
  have hmem : o ∉ (w.manager scope.manager).registry.objects := by
    rw [← Registry.holds_iff, hnew]
    exact Bool.false_ne_true
  rw [World.manager_join, if_pos rfl, Registry.objects_append, Member.observer_build]
  exact if_neg hmem

/-- The announcement of an object that has been removed fits. -/
theorem World.enroll?_part {member : Member}
    (hmember : (w.manager scope.manager).registry.member? o = some member)
    (fs : List (Fact ν)) :
    (Event.observerRemoved o member.observerType).enroll?
        (w.manager scope.manager).registry.objects
      = some ((w.part scope o fs).manager scope.manager).registry.objects := by
  have hmem : o ∈ (w.manager scope.manager).registry.objects := by
    rw [← Registry.holds_iff, Registry.holds, hmember]
    rfl
  rw [World.manager_part, if_pos rfl, Registry.objects_without]
  exact if_pos hmem

end Changes

/-- A step that brings up an announcement has made the change that is announced. -/
theorem Move.enroll?_of_announces {s t : State ν} (h : Move app s t) {m : ManagerId}
    (hannounces : t.announces m = true) :
    ∃ d, t.control.begun? = some d ∧
      d.event.enroll? (s.world.manager m).registry.objects
        = some (t.world.manager m).registry.objects := by
  cases h with
  | joined w scope operation o type fs K hop htype hcheck hnew =>
    obtain rfl : scope.manager = m := by
      simpa [State.announces, Control.begun?, Begun.announces] using hannounces
    refine ⟨_, rfl, ?_⟩
    rw [World.manager_enter]
    exact World.enroll?_join hnew type fs
  | parted w scope operation o member fs K hop hmember =>
    obtain rfl : scope.manager = m := by
      simpa [State.announces, Control.begun?, Begun.announces] using hannounces
    refine ⟨_, rfl, ?_⟩
    rw [World.manager_enter]
    exact World.enroll?_part hmember fs
  | rest w control K hended =>
    rw [State.announces, begun?_eq_none_of_isOutcome hended] at hannounces
    cases hannounces
  | _ => simp [State.announces, Control.begun?, Begun.announces] at hannounces

/-- What a step brings up for dispatch is no announcement of a manager and leaves its registry
alone, or it announces the change that the step has made. -/
theorem Move.enroll? {s t : State ν} (h : Move app s t) (m : ManagerId) :
    t.control.begun?.toList.foldlM (Begun.enroll? m) (s.world.manager m).registry.objects
      = some (t.world.manager m).registry.objects := by
  by_cases hannounces : t.announces m = true
  · obtain ⟨d, hd, henroll⟩ := h.enroll?_of_announces hannounces
    rw [State.announces, hd, Option.any_some] at hannounces
    rw [hd, Option.toList_some, List.foldlM_cons, Begun.enroll?, if_pos hannounces, henroll]
    rfl
  · have hkept := (not_congr (h.registry_ne_iff m)).2 hannounces
    rw [not_not.1 hkept]
    rw [State.announces] at hannounces
    cases hd : t.control.begun? with
    | none => rfl
    | some d =>
      rw [hd, Option.any_some] at hannounces
      rw [Option.toList_some, List.foldlM_cons, Begun.enroll?, if_neg hannounces]
      rfl

/-- The announcements can be replayed, the one that is about to be made included, and give the
registered objects. -/
theorem Reachable.enroll?_dispatches {s : State ν} (hs : Reachable app s) (m : ManagerId) :
    s.dispatches.foldlM (Begun.enroll? m) [] = some (s.world.manager m).registry.objects := by
  apply hs.induction (P := fun s =>
    s.dispatches.foldlM (Begun.enroll? m) [] = some (s.world.manager m).registry.objects)
  · intro command
    rfl
  · intro s t _ hmove h
    rw [hmove.dispatches, List.foldlM_append, h]
    exact hmove.enroll? m
  · intro s r command _ hr h
    rw [State.dispatches_start hr]
    exact h

/-- The announcements since an earlier state lead from the objects that were registered there to
those that are registered now. -/
theorem Reachable.enroll?_since {s t : State ν} (hs : Reachable app s) (ht : Reachable app t)
    {ds : List Begun} (hds : t.dispatches = s.dispatches ++ ds) (m : ManagerId) :
    ds.foldlM (Begun.enroll? m) (s.world.manager m).registry.objects
      = some (t.world.manager m).registry.objects := by
  have hall := ht.enroll?_dispatches m
  rw [hds, List.foldlM_append, hs.enroll?_dispatches m] at hall
  exact hall

/-- The announcements entered so far can be replayed, and the one that is about to be made leads
from what they give to the registered objects. -/
theorem Reachable.exists_enrolled {s : State ν} (hs : Reachable app s) (m : ManagerId) :
    ∃ objects, s.world.enrolled? m = some objects ∧
      s.control.begun?.toList.foldlM (Begun.enroll? m) objects
        = some (s.world.manager m).registry.objects := by
  have hall := hs.enroll?_dispatches m
  rw [State.dispatches, List.foldlM_append] at hall
  exact Option.bind_eq_some_iff.1 hall

/-- The announcements entered so far give the registered objects, unless a change is about to be
announced. -/
theorem Reachable.enrolled?_eq {s : State ν} (hs : Reachable app s) {m : ManagerId}
    (hidle : s.announces m = false) :
    s.world.enrolled? m = some (s.world.manager m).registry.objects := by
  obtain ⟨objects, henrolled, hnext⟩ := hs.exists_enrolled m
  rw [henrolled, ← hnext]
  rw [State.announces] at hidle
  cases hd : s.control.begun? with
  | none => rfl
  | some d =>
    rw [hd, Option.any_some] at hidle
    rw [Option.toList_some, List.foldlM_cons, Begun.enroll?, hidle]
    rfl

/-! ## The dispatch of an announcement -/

/-- Whether a list of objects is as it is right after the change that an event announces: what was
added stands last, what was removed is not there. -/
def Event.Describes (objects : List ObjectId) : Event → Prop
  | .observerAdded o _ => objects.getLast? = some o
  | .observerRemoved o _ => o ∉ objects
  | _ => False

theorem Event.describes_of_enroll? {event : Event} {objects objects' : List ObjectId}
    (h : event.enroll? objects = some objects') (hnodup : objects.Nodup) :
    event.Describes objects' := by
  cases enrolls_of_enroll? h with
  | added hnew heq =>
    rw [heq]
    simp [Describes]
  | removed hold heq =>
    rw [heq]
    exact hnodup.not_mem_erase

theorem Reachable.nodup_objects {s : State ν} (hs : Reachable app s) (m : ManagerId) :
    (s.world.manager m).registry.objects.Nodup :=
  (hs.sound m).nodup

/-- When an announcement is about to be dispatched, the registry is as it is right after the change
that is announced. -/
theorem Reachable.describes {s : State ν} (hs : Reachable app s) :
    ∀ scope event, s.control = .dispatch scope .membership event →
      event.Describes (s.world.manager scope.manager).registry.objects := by
  apply hs.induction (P := fun s => ∀ scope event,
    s.control = .dispatch scope .membership event →
      event.Describes (s.world.manager scope.manager).registry.objects)
  · intro command scope event hcontrol
    cases hcontrol
  · intro s t hs hmove _ scope event hcontrol
    have hannounces : t.announces scope.manager = true := by
      simp [State.announces, hcontrol, Control.begun?, Begun.announces]
    obtain ⟨d, hd, henroll⟩ := hmove.enroll?_of_announces hannounces
    rw [hcontrol] at hd
    cases hd
    exact Event.describes_of_enroll? henroll (hs.nodup_objects scope.manager)
  · intro s r command _ _ _ scope event hcontrol
    cases hcontrol

/-- A dispatch that is asked for by no caller is of one of the manager's own events. -/
theorem Reachable.own_events {s : State ν} (hs : Reachable app s) :
    ∀ scope origin event, s.control = .dispatch scope origin event → origin ≠ .request →
      (∀ i, event.type ≠ .custom i) ∧ (origin ≠ .membership → event.type = .observerFailed) := by
  apply hs.induction (P := fun s => ∀ scope origin event,
    s.control = .dispatch scope origin event → origin ≠ .request →
      (∀ i, event.type ≠ .custom i) ∧ (origin ≠ .membership → event.type = .observerFailed))
  · intro command scope origin event hcontrol
    cases hcontrol
  · intro s t _ hmove _ scope origin event hcontrol horigin
    cases hmove with
    | joined =>
      cases hcontrol
      exact ⟨nofun, fun h => absurd rfl h⟩
    | parted =>
      cases hcontrol
      exact ⟨nofun, fun h => absurd rfl h⟩
    | report =>
      cases hcontrol
      exact ⟨nofun, fun _ => rfl⟩
    | fire =>
      cases hcontrol
      exact absurd rfl horigin
    | rest w control K hended =>
      rw [show control = .dispatch scope origin event from hcontrol] at hended
      cases hended
    | _ => cases hcontrol
  · intro s r command _ _ _ scope origin event hcontrol
    cases hcontrol

/-- A dispatch is delivered to the plan that the registry gives at its beginning. -/
theorem Reachable.control_of_dispatch {s : State ν} (hs : Reachable app s) {scope : Scope}
    {origin : Origin} {event : Event} (hcontrol : s.control = .dispatch scope origin event) :
    (s.step app).control = .deliver scope ⟨s.world.nextDispatch, event⟩
      (Plan.build app.hierarchy (app.maxDepth scope.manager)
        (s.world.manager scope.manager).registry event.type).toList := by
  rw [(s.move_step app).of_dispatch hcontrol, hs.sound.resolve_eq]
  rfl

/-! ## The reply to an operation -/

/-- What the first step of an operation that is asked for a change does: it makes the change and
announces it, with the answer `true` to come, or it answers otherwise and changes nothing, or it
changes nothing and comes to no end. -/
inductive Operation.Outcome (scope : Scope) (operation : Operation) (s t : State ν) : Prop
  | made (name : String) (event : Event) (outermost : Bool)
      (hevent : operation.announcement? name = some event)
      (henroll : event.enroll? (s.world.manager scope.manager).registry.objects
        = some (t.world.manager scope.manager).registry.objects)
      (hcontrol : t.control = .dispatch scope .membership event)
      (hstack : t.stack = .firing scope outermost (.flag true) :: s.stack)
  | kept (reply : Reply) (hreply : reply ≠ .flag true) (hcontrol : t.control = .answered reply)
      (hmanager : ∀ m, t.world.manager m = s.world.manager m) (hstack : t.stack = s.stack)
  | stuck (hcontrol : t.control = .stuck)
      (hmanager : ∀ m, t.world.manager m = s.world.manager m) (hstack : t.stack = s.stack)

section Outcome

variable {w : World ν} {scope : Scope} {o : ObjectId} {operation : Operation}
  {r : World.Change × World ν} {K : List (Frame ν)}

theorem World.Registers.outcome (hr : w.Registers app scope o r)
    (hop : ∀ name, operation.announcement? name = some (.observerAdded o name)) :
    operation.Outcome scope ⟨w, .perform scope operation, K⟩
      ((⟨w, .perform scope operation, K⟩ : State ν).conclude scope (.observerAdded o) r) := by
  cases hr with
  | @kept change k fs hmade =>
    cases change with
    | none => exact .kept (.flag false) (by simp) rfl (by simp [State.conclude]) rfl
    | refused refusal => exact .kept (.refused refusal) (by simp) rfl (by simp [State.conclude]) rfl
    | undecided => exact .stuck rfl (by simp [State.conclude]) rfl
    | made name => exact absurd rfl (hmade name)
  | @joined type fs htype hcheck hnew =>
    refine .made type.name _ _ (hop type.name) ?_ rfl rfl
    show _ = some (((w.join scope o type fs).enter scope).manager scope.manager).registry.objects
    rw [World.manager_enter]
    exact World.enroll?_join hnew type fs

theorem World.Removes.outcome (hr : w.Removes scope o r)
    (hop : ∀ name, operation.announcement? name = some (.observerRemoved o name)) :
    operation.Outcome scope ⟨w, .perform scope operation, K⟩
      ((⟨w, .perform scope operation, K⟩ : State ν).conclude scope (.observerRemoved o) r) := by
  cases hr with
  | kept => exact .kept (.flag false) (by simp) rfl (fun _ => rfl) rfl
  | @parted member fs hmember =>
    refine .made member.observerType _ _ (hop member.observerType) ?_ rfl rfl
    show _ = some (((w.part scope o fs).enter scope).manager scope.manager).registry.objects
    rw [World.manager_enter]
    exact World.enroll?_part hmember fs

end Outcome

theorem State.outcome_step {s : State ν} {scope : Scope} {operation : Operation}
    (hcontrol : s.control = .perform scope operation) (hop : operation.isMembership = true) :
    operation.Outcome scope s (s.step app) := by
  obtain ⟨w, control, K⟩ := s
  subst hcontrol
  cases operation with
  | add o => exact (w.registers_add app scope o).outcome fun _ => rfl
  | addComponent o => exact (w.registers_addComponent app scope o).outcome fun _ => rfl
  | remove o => exact (w.removes_remove scope o).outcome fun _ => rfl
  | removeComponent o => exact (w.removes_remove scope o).outcome fun _ => rfl
  | isRegistered | fire | status => cases hop

/-- An operation that is asked for a change and gives a reply answers `true` if it has made and
announced the change, and has left the registry alone otherwise. -/
theorem Reachable.reply_of_membership {s t : State ν} (hs : Reachable app s) {scope : Scope}
    {operation : Operation} (hcontrol : s.control = .perform scope operation)
    (hop : operation.isMembership = true) (ht : During app s t) (hstack : t.stack = s.stack)
    {reply : Reply} (hreply : t.control = .answered reply) :
    (reply = .flag true ↔ ∃ name event, operation.announcement? name = some event ∧
      event.enroll? (s.world.manager scope.manager).registry.objects
        = some ((s.step app).world.manager scope.manager).registry.objects ∧
      (s.step app).control = .dispatch scope .membership event) ∧
    (reply ≠ .flag true →
      ((s.step app).world.manager scope.manager).registry
        = (s.world.manager scope.manager).registry) := by
  have hne : t ≠ s := by
    rintro rfl
    rw [hcontrol] at hreply
    cases hreply
  have houtcome : operation.Outcome scope s (s.step app) := State.outcome_step hcontrol hop
  cases houtcome with
  | made name event outermost hevent henroll hdispatch hpush =>
    -- The reply comes when the fire of the announcement has ended.
    have htrue : reply = .flag true := by
      rcases ht.cases_of_push hpush with heq | habove | ⟨u, hu, hafter⟩
      · exact absurd heq hne
      · have hlength := habove.length_le
        rw [hpush, hstack] at hlength
        exact absurd hlength (by simp)
      · have hpop := hu.stack_step hpush
        have hnested := ((During.refl.step (by rw [hpush]; simp)).trans hu.1).reachable hs |>.nested
        have houtcome := (hnested.step_of_firing hu.isOutcome (hu.stack_eq.trans hpush)).2
        rw [hafter.eq_of_isOutcome houtcome] at hreply
        rcases (u.move_step app).answered_of_firing (by rw [hu.stack_eq, hpush, hpop]) with
          hanswer | ⟨payload, hunwinding⟩
        · rw [hanswer] at hreply
          exact (Control.answered.inj hreply).symm
        · rw [State.step, hunwinding] at hreply
          simp [State.unwinding, hu.stack_eq, hpush, hunwinding] at hreply
    refine ⟨iff_of_true htrue ⟨name, event, hevent, henroll, hdispatch⟩, ?_⟩
    intro hfalse
    exact absurd htrue hfalse
  | kept answer hanswer hanswered hmanager hkept =>
    have heq : t = s.step app := by
      rcases ht.cases_of_same hkept with heq | hafter
      · exact absurd heq hne
      · apply hafter.eq_of_isOutcome
        rw [hanswered]
        rfl
    rw [heq, hanswered] at hreply
    cases hreply
    refine ⟨iff_of_false hanswer ?_, fun _ => by rw [hmanager]⟩
    rintro ⟨name, event, -, -, hdispatch⟩
    rw [hanswered] at hdispatch
    cases hdispatch
  | stuck hstuck hmanager hkept =>
    rcases ht.cases_of_same hkept with heq | hafter
    · exact absurd heq hne
    · rw [hafter.eq_of_stuck hstuck, hstuck] at hreply
      cases hreply

/-- In every state of a session no object is registered twice with a manager; the announcements that
the manager has dispatched, replayed from the empty list on, can all be made, and together with the
one that is about to be dispatched, if there is one, they give the registered objects in the order
of the registry; queries answer by that list; an announcement is dispatched by the plan of the
registry right after its change; and an operation asked for a change that gives a reply answers
`true` exactly if it has made and announced that change. -/
theorem Reachable.membership_journal {s : State ν} (hs : Reachable app s) (m : ManagerId) :
    (s.world.manager m).registry.objects.Nodup ∧
    (∃ objects, s.world.enrolled? m = some objects ∧
      s.control.begun?.toList.foldlM (Begun.enroll? m) objects
        = some (s.world.manager m).registry.objects) ∧
    (s.announces m = false →
      s.world.enrolled? m = some (s.world.manager m).registry.objects) ∧
    (∀ thread o, s.control = .perform ⟨thread, m⟩ (.isRegistered o) →
      (s.step app).control
        = .answered (.flag (decide (o ∈ (s.world.manager m).registry.objects)))) ∧
    (∀ thread, s.control = .perform ⟨thread, m⟩ .status →
      (s.step app).control
        = .answered (.status (s.world.manager m).registry.objects.length
            (s.world.manager m).cache.size)) ∧
    (∀ thread event, s.control = .dispatch ⟨thread, m⟩ .membership event →
      event.Describes (s.world.manager m).registry.objects ∧
      (s.step app).control = .deliver ⟨thread, m⟩ ⟨s.world.nextDispatch, event⟩
        (Plan.build app.hierarchy (app.maxDepth m) (s.world.manager m).registry
          event.type).toList) ∧
    (∀ thread operation t reply, s.control = .perform ⟨thread, m⟩ operation →
      operation.isMembership = true → During app s t → t.stack = s.stack →
      t.control = .answered reply →
      (reply = .flag true ↔ ∃ name event, operation.announcement? name = some event ∧
        event.enroll? (s.world.manager m).registry.objects
          = some ((s.step app).world.manager m).registry.objects ∧
        (s.step app).control = .dispatch ⟨thread, m⟩ .membership event) ∧
      (reply ≠ .flag true →
        ((s.step app).world.manager m).registry = (s.world.manager m).registry)) := by
  refine ⟨hs.nodup_objects m, hs.exists_enrolled m, hs.enrolled?_eq, ?_, ?_, ?_, ?_⟩
  · intro thread o hcontrol
    rw [State.step, hcontrol]
    show Control.answered (.flag ((s.world.manager m).registry.holds o)) = _
    congr 2
    rw [Bool.eq_iff_iff, Registry.holds_iff, decide_eq_true_iff]
  · intro thread hcontrol
    rw [State.step, hcontrol]
    show Control.answered (.status (s.world.manager m).registry.length _) = _
    rw [Registry.objects, List.length_map]
  · intro thread event hcontrol
    exact ⟨hs.describes _ _ hcontrol, hs.control_of_dispatch hcontrol⟩
  · intro thread operation t reply hcontrol hop ht hstack hreply
    exact hs.reply_of_membership hcontrol hop ht hstack hreply

/-- A steward that, when it is called, adds two objects and removes the first of them again, and
then panics, and a restorer that adds that object whenever one has been removed. -/
def turnover : Script.Cast where
  hierarchy := ⟨fun _ => none⟩
  names := ⟨fun _ => "Event", fun _ => .labelled "Event"⟩
  managers := [{ containPanics := false }]
  roles := [
    some ⟨"Steward", false, [⟨⟨.invoke, .custom 0, "shuffle"⟩, false,
      [⟨.act ⟨.add 2, 0, .direct⟩ false, 0, none, none⟩,
        ⟨.act ⟨.add 3, 0, .direct⟩ false, 0, none, none⟩,
        ⟨.act ⟨.remove 2, 0, .direct⟩ false, 0, none, none⟩,
        ⟨.panic .other, 0, none, none⟩]⟩]⟩,
    some ⟨"Restorer", false, [⟨⟨.invoke, .observerRemoved, "restore"⟩, false,
      [⟨.act ⟨.add 2, 0, .direct⟩ false, 0, none, none⟩]⟩]⟩,
    some ⟨"Guest", false, [⟨⟨.invoke, .any, "listen"⟩, false, []⟩]⟩,
    some ⟨"Guest", false, [⟨⟨.invoke, .any, "listen"⟩, false, []⟩]⟩]

/-- The state in which the steward is about to remove an object. -/
def turnoverState : State Script.Note :=
  (State.start (World.after turnover.application 40 {}
    [{ operation := .add 0 }, { operation := .add 1 }])
    { operation := .fire (.plain 0 "") }).steps turnover.application 42

/-- The object is removed and added again before the steward is told that it has removed it; what
the journal says of the registry holds then, and also after the steward's panic has ended the run.
-/
theorem turnover_journal_gives_registry :
    Reachable turnover.application turnoverState ∧
      turnoverState.control = .perform ⟨0, 0⟩ (.remove 2) ∧
      turnoverState.world.enrolled? 0 = some [0, 1, 2, 3] ∧
      (turnoverState.steps turnover.application 33).control = .answered (.flag true) ∧
      (∃ name event, (Operation.remove 2).announcement? name = some event ∧
        (turnoverState.step turnover.application).control = .dispatch ⟨0, 0⟩ .membership event) ∧
      (turnoverState.steps turnover.application 38).control = .unwinding .other ∧
      (turnoverState.steps turnover.application 38).world.enrolled? 0 = some [0, 1, 3, 2] := by
  have hs : Reachable turnover.application turnoverState :=
    (Reachable.after _ (fun _ => .start _) (by decide +kernel)).steps 42
  have hduring : During turnover.application turnoverState
      (turnoverState.steps turnover.application 33) := .of_steps (by decide +kernel)
  obtain ⟨-, -, henrolled, -, -, -, hreply⟩ := hs.membership_journal 0
  obtain ⟨hmade, -⟩ := hreply 0 (.remove 2) _ (.flag true) (by rfl) rfl hduring (by rfl) (by rfl)
  obtain ⟨name, event, hevent, -, hdispatch⟩ := hmade.1 rfl
  obtain ⟨-, -, henrolled', -⟩ := (hs.steps 38).membership_journal 0
  refine ⟨hs, by rfl, ?_, by rfl, ⟨name, event, hevent, hdispatch⟩, by rfl, ?_⟩
  · rw [henrolled (by decide +kernel)]
    decide +kernel
  · rw [henrolled' (by decide +kernel)]
    decide +kernel

end EventDispatch
