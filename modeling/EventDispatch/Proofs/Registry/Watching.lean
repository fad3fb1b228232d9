import Mathlib.Data.List.Chain
import EventDispatch.Proofs.Machine.Session
import EventDispatch.Proofs.Registry.Identity
import EventDispatch.Proofs.Registry.Membership
import EventDispatch.Proofs.Delivery.Calls
import EventDispatch.Proofs.Delivery.Course

/-!
# Watching a registry

What a manager announces about an object alternates, and the last announcement says whether the
object is registered (`Reachable.isChain_newsOf`). A watcher is a member that has handlers for both
kinds of announcement in one phase. What its handlers have been told about an object and what is
still on its way to them make up what has been announced since the watcher was added, in whatever
order it arrives (`Watcher.perm_newsOf`). Announcements are delivered within the operations that
make the changes, so an object may be added or removed while an earlier announcement about it has
yet to reach the watcher. Where that does not happen, the announcements arrive in their order
(`Watcher.newsOf_eq`), and the last one says whether the object is registered
(`Reachable.watcher_mirrors`).
-/

set_option autoImplicit false

namespace EventDispatch

variable {ν : Type} {app : Application ν}

/-! ## News -/

/-- The type of the events that announce additions, or that of those that announce removals. -/
def EventType.announcement (added : Bool) : EventType :=
  if added then .observerAdded else .observerRemoved

/-- What an event says about an object: that it has been added, or that it has been removed. -/
def Event.news? (x : ObjectId) : Event → Option Bool
  | .observerAdded o _ => if o = x then some true else none
  | .observerRemoved o _ => if o = x then some false else none
  | _ => none

/-- What a manager announces about an object with a dispatch. -/
def Begun.news? (m : ManagerId) (x : ObjectId) (d : Begun) : Option Bool :=
  if d.announces m then d.event.news? x else none

/-- What a manager is about to announce about an object. -/
def State.news? (m : ManagerId) (x : ObjectId) (s : State ν) : Option Bool :=
  s.control.begun?.bind (Begun.news? m x)

/-- All that a manager has announced about an object, what it is about to announce included. -/
def State.newsOf (m : ManagerId) (x : ObjectId) (s : State ν) : List Bool :=
  s.dispatches.filterMap (Begun.news? m x)

namespace Event

variable {x : ObjectId} {added : Bool} {event : Event}

theorem type_of_news? (h : event.news? x = some added) : event.type = .announcement added := by
  cases event with
  | observerAdded o name =>
    rw [news?] at h
    split at h
    · rw [← Option.some.inj h]
      rfl
    · cases h
  | observerRemoved o name =>
    rw [news?] at h
    split at h
    · rw [← Option.some.inj h]
      rfl
    · cases h
  | plain | extending | observerFailed => cases h

variable {objects objects' : List ObjectId}

theorem Enrolls.nodup (h : event.Enrolls objects objects') (hnodup : objects.Nodup) :
    objects'.Nodup := by
  cases h with
  | added hnew heq =>
    rw [heq, ← List.concat_eq_append]
    exact hnodup.concat hnew
  | removed hold heq =>
    rw [heq]
    exact hnodup.erase _

/-- A change of another object leaves an object as it is. -/
theorem Enrolls.mem_iff (h : event.Enrolls objects objects') (hnews : event.news? x = none) :
    x ∈ objects' ↔ x ∈ objects := by
  have hne {o : ObjectId} {b : Bool} (h : (if o = x then some b else none) = none) : x ≠ o := by
    rintro rfl
    simp at h
  cases h with
  | added hnew heq => simp [heq, hne hnews]
  | removed hold heq => rw [heq, List.mem_erase_of_ne (hne hnews)]

/-- What is added was not registered before, and what is removed was. -/
theorem Enrolls.decide_mem (h : event.Enrolls objects objects') (hnodup : objects.Nodup)
    (hnews : event.news? x = some added) :
    decide (x ∈ objects) = !added ∧ decide (x ∈ objects') = added := by
  have heq {o : ObjectId} {b : Bool} (h : (if o = x then some b else none) = some added) :
      o = x ∧ b = added := by
    simpa using h
  cases h with
  | added hnew hobjects =>
    obtain ⟨rfl, rfl⟩ := heq hnews
    simp [hobjects, hnew]
  | removed hold hobjects =>
    obtain ⟨rfl, rfl⟩ := heq hnews
    simp [hobjects, hold, hnodup.not_mem_erase]

end Event

section Replay

variable {m : ManagerId} {x : ObjectId} {objects objects' : List ObjectId}

/-- What can be announced about an object, one thing after the other, alternates and ends with
whether the object is registered. -/
theorem isChain_news {ds : List Begun} (h : ds.foldlM (Begun.enroll? m) objects = some objects')
    (hnodup : objects.Nodup) :
    List.IsChain (· ≠ ·) (decide (x ∈ objects) :: ds.filterMap (Begun.news? m x)) ∧
      (ds.filterMap (Begun.news? m x)).getLastD (decide (x ∈ objects))
        = decide (x ∈ objects') := by
  induction ds generalizing objects with
  | nil =>
    rw [List.foldlM_nil] at h
    obtain rfl : objects = objects' := Option.some.inj h
    exact ⟨.singleton _, rfl⟩
  | cons d ds ih =>
    rw [List.foldlM_cons] at h
    obtain ⟨between, hd, hds⟩ := Option.bind_eq_some_iff.1 h
    rw [Begun.enroll?] at hd
    split at hd
    · rename_i hannounces
      have henrolls := Event.enrolls_of_enroll? hd
      have hbetween := henrolls.nodup hnodup
      cases hnews : d.event.news? x with
      | none =>
        -- The change is one of another object.
        have hmem : decide (x ∈ between) = decide (x ∈ objects) :=
          decide_eq_decide.2 (henrolls.mem_iff hnews)
        rw [List.filterMap_cons_none (by rw [Begun.news?, if_pos hannounces, hnews]), ← hmem]
        exact ih hds hbetween
      | some added =>
        obtain ⟨hbefore, hafter⟩ := henrolls.decide_mem hnodup hnews
        obtain ⟨hchain, hlast⟩ := ih hds hbetween
        rw [hafter] at hchain hlast
        rw [List.filterMap_cons_some (by rw [Begun.news?, if_pos hannounces, hnews])]
        refine ⟨.cons_cons ?_ hchain, ?_⟩
        · rw [hbefore]
          simp
        · rw [List.getLastD_cons]
          exact hlast
    · rename_i hannounces
      rw [Option.some.inj hd] at hnodup ⊢
      rw [List.filterMap_cons_none (by rw [Begun.news?, if_neg hannounces])]
      exact ih hds hnodup

/-- What a manager has announced about an object alternates, from an addition on, and ends with
whether the object is registered. -/
theorem Reachable.isChain_newsOf {s : State ν} (hs : Reachable app s) (m : ManagerId)
    (x : ObjectId) :
    List.IsChain (· ≠ ·) (false :: s.newsOf m x) ∧
      (s.newsOf m x).getLastD false = decide (x ∈ (s.world.manager m).registry.objects) :=
  isChain_news (hs.enroll?_dispatches m) List.nodup_nil

/-- The end of an alternating list alternates from the last element before it on. -/
theorem isChain_getLastD {b : Bool} {news later : List Bool}
    (h : List.IsChain (· ≠ ·) (b :: (news ++ later))) :
    List.IsChain (· ≠ ·) (news.getLastD b :: later) := by
  induction news generalizing b with
  | nil => exact h
  | cons n news ih =>
    rw [List.getLastD_cons]
    exact ih (List.isChain_cons_cons.1 h).2

theorem getLastD_append (news later : List Bool) (b : Bool) :
    (news ++ later).getLastD b = later.getLastD (news.getLastD b) := by
  induction news generalizing b with
  | nil => rfl
  | cons n news ih => rw [List.cons_append, List.getLastD_cons, List.getLastD_cons, ih]

/-- In an alternating list the two kinds of news are equally many, but for the first and last. -/
theorem count_of_isChain {b : Bool} {news : List Bool} (h : List.IsChain (· ≠ ·) (b :: news)) :
    news.count true + b.toNat = news.count false + (news.getLastD b).toNat := by
  induction news generalizing b with
  | nil => simp
  | cons n news ih =>
    obtain ⟨hne, hrest⟩ := List.isChain_cons_cons.1 h
    have hcount := ih hrest
    rw [List.getLastD_cons]
    cases b <;> cases n <;> simp at hne hcount ⊢ <;> omega

end Replay

/-- A step adds what it brings up to what has been announced. -/
theorem Move.newsOf {s t : State ν} (h : Move app s t) (m : ManagerId) (x : ObjectId) :
    t.newsOf m x = s.newsOf m x ++ (t.news? m x).toList := by
  rw [State.newsOf, h.dispatches, List.filterMap_append, State.newsOf, State.news?]
  cases t.control.begun? with
  | none => rfl
  | some d => cases hd : Begun.news? m x d <;> simp [hd]

theorem State.newsOf_start {s : State ν} {r : Except Payload Reply} (hr : s.result? = some r)
    (command : Command) (m : ManagerId) (x : ObjectId) :
    (State.start s.world command).newsOf m x = s.newsOf m x := by
  rw [newsOf, dispatches_start hr, newsOf]

theorem EventType.announcement_ne_any (added : Bool) : announcement added ≠ .any := by
  cases added <;> decide

theorem EventType.announcement_inj {added added' : Bool}
    (h : announcement added = announcement added') : added = added' := by
  cases added <;> cases added' <;> first | rfl | cases h

/-! ## Handlers of deliveries and calls -/

section Handlers

variable {s : State ν}

theorem State.mem_handlers_of_pending {p : Pending} (hp : p ∈ s.pending) {b : BoundHandler}
    (hb : b ∈ p.rest) : (p.scope.manager, b) ∈ s.handlers := by
  rw [pending, List.mem_append, Option.mem_toList] at hp
  rw [handlers, List.mem_append, List.mem_append]
  refine .inl (hp.imp ?_ ?_)
  · intro hcontrol
    cases hc : s.control with
    | deliver scope delivery rest =>
      rw [hc] at hcontrol
      cases hcontrol
      exact List.mem_map_of_mem hb
    | fail scope delivery b' failure rest =>
      rw [hc] at hcontrol
      cases hcontrol
      exact List.mem_map_of_mem (List.mem_cons_of_mem _ hb)
    | _ =>
      rw [hc] at hcontrol
      cases hcontrol
  · intro hstack
    obtain ⟨frame, hframe, hpending⟩ := List.mem_filterMap.1 hstack
    refine List.mem_flatMap.2 ⟨frame, hframe, ?_⟩
    cases frame with
    | attempt scope delivery b' rest =>
      cases hpending
      exact List.mem_map_of_mem (List.mem_cons_of_mem _ hb)
    | reporting scope delivery b' failure rest =>
      cases hpending
      exact List.mem_map_of_mem (List.mem_cons_of_mem _ hb)
    | _ => cases hpending

theorem State.mem_handlers_of_calls {c : Call} (hc : c ∈ s.calls) :
    (c.attempt.scope.manager, c.attempt.handler) ∈ s.handlers := by
  obtain ⟨entry, hentry, hcall⟩ := List.mem_filterMap.1 hc
  refine List.mem_append_right _ (List.mem_filterMap.2 ⟨entry, hentry, ?_⟩)
  obtain ⟨scope, fact⟩ := entry
  cases fact with
  | called =>
    cases hcall
    rfl
  | _ => cases hcall

end Handlers

/-! ## Watchers -/

/-- A member of a manager with handlers for both kinds of announcement in one phase. -/
structure Watcher where
  manager : ManagerId
  member : Member
  phase : Phase
  handler : Bool → BoundHandler
  finds : ∀ added, (member.table phase).find? (.announcement added) = some (handler added)

namespace Watcher

variable (W : Watcher) (x : ObjectId)

/-- What a call tells a watcher about an object, if it is a call of one of its two handlers. -/
def receives? (c : Call) : Option Bool :=
  if ∃ added, c.attempt.handler = W.handler added then c.part.news? x else none

/-- What a watcher has been told about an object, in the order of receipt. -/
def heard (s : State ν) : List Bool := s.calls.filterMap (W.receives? x)

/-- What a delivery under way has yet to tell a watcher about an object. -/
def due? (p : Pending) : Option Bool :=
  (p.delivery.event.news? x).filter fun added => W.handler added ∈ p.rest

/-- What a watcher has yet to be told about an object, the latest announcement first. -/
def due (s : State ν) : List Bool :=
  (s.news? W.manager x).toList ++ s.pending.filterMap (W.due? x)

/-- Whether a watcher is registered and no caller asks its manager to fire an event that gives the
handlers of announcements a part: a copy of an announcement, or an event of a type that descends
from theirs and embeds a copy. -/
structure Attends (app : Application ν) (s : State ν) : Prop where
  registered : W.member ∈ (s.world.manager W.manager).registry
  genuine : ∀ d ∈ s.control.begun?, d.origin = .request → d.scope.manager = W.manager →
    ∀ added, d.event.isA app.hierarchy (app.maxDepth W.manager) (.announcement added) = true →
      d.event.part? (app.maxDepth W.manager) (.announcement added) = none

instance (s : State ν) : Decidable (W.Attends app s) :=
  decidable_of_iff (W.member ∈ (s.world.manager W.manager).registry ∧
    ∀ d ∈ s.control.begun?, d.origin = .request → d.scope.manager = W.manager →
      ∀ added, d.event.isA app.hierarchy (app.maxDepth W.manager) (.announcement added) = true →
        d.event.part? (app.maxDepth W.manager) (.announcement added) = none)
    ⟨fun h => ⟨h.1, h.2⟩, fun h => ⟨h.1, h.2⟩⟩

/-- Whether nothing is announced about an object while the watcher has yet to be told of an earlier
announcement. -/
def InTime (s : State ν) : Prop :=
  (s.news? W.manager x).isSome = true → s.pending.filterMap (W.due? x) = []

instance (s : State ν) : Decidable (W.InTime x s) :=
  inferInstanceAs (Decidable (_ → _))

/-- Whether the deliveries under way give a watcher nothing but announcements themselves. -/
def Faithful (app : Application ν) (s : State ν) : Prop :=
  ∀ p ∈ s.pending, ∀ added, W.handler added ∈ p.rest → ∀ part,
    p.delivery.event.part? (app.maxDepth W.manager) (.announcement added) = some part →
      part = p.delivery.event

theorem mem_bound (added : Bool) : W.handler added ∈ W.member.bound :=
  Member.mem_bound.2 ⟨W.phase, Assoc.mem_values_of_find? (W.finds added)⟩

/-- A delivery that has another handler next has the same to tell afterwards. -/
theorem due?_cons {scope : Scope} {delivery : Delivery} {b : BoundHandler}
    {rest : List BoundHandler}
    (hb : ∀ added, delivery.event.news? x = some added → b ≠ W.handler added) :
    W.due? x ⟨scope, delivery, b :: rest⟩ = W.due? x ⟨scope, delivery, rest⟩ := by
  rw [due?, due?]
  cases hnews : delivery.event.news? x with
  | none => rfl
  | some added =>
    rw [Option.filter_some, Option.filter_some]
    simp [(hb added hnews).symm]

/-- A delivery has nothing to tell if it has none of the watcher's handlers left. -/
theorem due?_eq_none {p : Pending} (hp : ∀ added, W.handler added ∉ p.rest) :
    W.due? x p = none := by
  rw [due?]
  cases hnews : p.delivery.event.news? x with
  | none => rfl
  | some added => simp [hp added]

variable {W x}

/-- A delivery that takes a handler off its plan gives the others the same. -/
theorem faithful_of_turn {s t : State ν} {scope : Scope} {delivery : Delivery} {b : BoundHandler}
    {rest : List BoundHandler} {P : List Pending}
    (hbefore : s.pending = ⟨scope, delivery, b :: rest⟩ :: P)
    (hafter : t.pending = ⟨scope, delivery, rest⟩ :: P) (h : W.Faithful app s) :
    W.Faithful app t := by
  rw [Faithful, hbefore, List.forall_mem_cons] at h
  rw [Faithful, hafter, List.forall_mem_cons]
  refine ⟨?_, h.2⟩
  intro added hadded part hpart
  exact h.1 added (List.mem_cons_of_mem _ hadded) part hpart

/-- An event that a caller asks for has no part for the watcher's handlers. -/
theorem Attends.part?_eq_none {s : State ν} (h : W.Attends app s) {scope : Scope} {event : Event}
    (hcontrol : s.control = .dispatch scope .request event) (hmanager : scope.manager = W.manager)
    {added : Bool}
    (hisA : event.isA app.hierarchy (app.maxDepth W.manager) (.announcement added) = true) :
    event.part? (app.maxDepth W.manager) (.announcement added) = none :=
  h.genuine ⟨scope, .request, event⟩ (by rw [hcontrol]; rfl) rfl hmanager added hisA

section Attending

variable {s : State ν} (h : W.Attends app s) (hs : Reachable app s)
include h hs

theorem Attends.eventType_eq (added : Bool) :
    (W.handler added).eventType = .announcement added :=
  ((hs.sound _).made h.registered).eventType_eq (W.finds added)

theorem Attends.maxDepth_pos : 0 < app.maxDepth W.manager := by
  apply ((hs.sound _).made h.registered).maxDepth_pos (W.mem_bound true)
  rw [h.eventType_eq hs]
  exact EventType.announcement_ne_any true

/-- The watcher's handlers are known as handlers of its manager only. -/
theorem Attends.manager_eq {m : ManagerId} {added : Bool} (hknows : s.Knows m (W.handler added)) :
    m = W.manager :=
  (hs.identified.unique hknows (.inl ⟨W.member, h.registered, W.mem_bound added⟩) rfl).1

theorem Attends.manager_eq_of_pending {p : Pending} (hp : p ∈ s.pending) {added : Bool}
    (hadded : W.handler added ∈ p.rest) : p.scope.manager = W.manager :=
  h.manager_eq hs (.inr (State.mem_handlers_of_pending hp hadded))

variable {scope : Scope}

/-- The watcher is told of every announcement of its manager. -/
theorem Attends.mem_plan (hmanager : scope.manager = W.manager) {added : Bool} :
    W.handler added ∈ (s.world.resolve app scope (.announcement added)).1.toList := by
  rw [hs.sound.resolve_eq, ManagerState.currentPlan, Plan.toList_build, List.mem_flatMap, hmanager]
  refine ⟨W.phase, Phase.mem_all _, List.mem_filterMap.2 ⟨W.member, h.registered, ?_⟩⟩
  exact Member.handler?_of_find? (h.maxDepth_pos hs) (EventType.announcement_ne_any added)
    (W.finds added)

/-- It is told of nothing of another manager. -/
theorem Attends.manager_eq_of_mem_plan {t : EventType} {added : Bool}
    (hplan : W.handler added ∈ (s.world.resolve app scope t).1.toList) :
    scope.manager = W.manager := by
  rw [hs.sound.resolve_eq] at hplan
  exact h.manager_eq hs (.inl (ManagerState.mem_of_mem_currentPlan hplan))

variable {origin : Origin} {event : Event}

/-- What is dispatched in place of an announcement by the watcher's manager is one. -/
theorem Attends.origin_eq (hcontrol : s.control = .dispatch scope origin event)
    (hmanager : scope.manager = W.manager) {added : Bool}
    (htype : event.type = .announcement added) : origin = .membership := by
  cases origin with
  | membership => rfl
  | request =>
    have hisA : event.isA app.hierarchy (app.maxDepth W.manager) (.announcement added) = true := by
      rw [Event.isA, htype]
      exact app.hierarchy.isA_self (h.maxDepth_pos hs) (EventType.announcement_ne_any added)
    have hnone := h.part?_eq_none hcontrol hmanager hisA
    rw [Event.part?_of_type (h.maxDepth_pos hs) htype] at hnone
    cases hnone
  | report i =>
    have hfailed : event.type = .observerFailed :=
      (hs.own_events scope _ event hcontrol (by simp)).2 (by simp)
    rw [hfailed] at htype
    cases added <;> cases htype

/-- A dispatch that begins has to tell the watcher what it announces. -/
theorem Attends.due?_plan (hcontrol : s.control = .dispatch scope origin event) (id : Nat) :
    W.due? x ⟨scope, ⟨id, event⟩, (s.world.resolve app scope event.type).1.toList⟩
      = Begun.news? W.manager x ⟨scope, origin, event⟩ := by
  rw [due?, Begun.news?]
  cases hnews : event.news? x with
  | none => simp
  | some added =>
    have htype := Event.type_of_news? hnews
    rw [Option.filter_some, htype]
    by_cases hmanager : scope.manager = W.manager
    · obtain rfl := h.origin_eq hs hcontrol hmanager htype
      simp [Begun.announces, hmanager, h.mem_plan hs hmanager]
    · have hplan : W.handler added
          ∉ (s.world.resolve app scope (.announcement added)).1.toList := by
        intro hmem
        exact hmanager (h.manager_eq_of_mem_plan hs hmem)
      simp [Begun.announces, hmanager, hplan]

/-- A dispatch that begins gives the watcher announcements themselves. -/
theorem Attends.eq_of_part? (hcontrol : s.control = .dispatch scope origin event) {added : Bool}
    (hplan : W.handler added ∈ (s.world.resolve app scope event.type).1.toList) {part : Event}
    (hpart : event.part? (app.maxDepth W.manager) (.announcement added) = some part) :
    part = event := by
  have hmanager := h.manager_eq_of_mem_plan hs hplan
  by_cases horigin : origin = .request
  · subst horigin
    rw [hs.sound.resolve_eq, hmanager] at hplan
    have hisA := (hs.sound _).isA_of_mem_currentPlan hplan
    rw [h.eventType_eq hs] at hisA
    have hnone := h.part?_eq_none hcontrol hmanager hisA
    rw [hpart] at hnone
    cases hnone
  · exact Event.eq_of_part? (hs.own_events scope origin event hcontrol horigin).1
      (EventType.announcement_ne_any added) hpart

theorem Attends.faithful {t : State ν} (hmove : Move app s t) (hfaithful : W.Faithful app s) :
    W.Faithful app t := by
  cases hmove with
  | dispatch w scope origin event K =>
    intro p hp added hadded part hpart
    rcases List.mem_cons.1 hp with rfl | hold
    · exact h.eq_of_part? hs rfl hadded hpart
    · exact hfaithful p hold added hadded part hpart
  | attempt | mismatch => exact faithful_of_turn rfl rfl hfaithful
  | complete => exact fun p hp => hfaithful p (List.mem_cons_of_mem _ hp)
  | escape => exact fun p hp => hfaithful p (List.mem_cons_of_mem _ hp)
  | abandonReport => exact fun p hp => hfaithful p (List.mem_cons_of_mem _ hp)
  | _ => exact hfaithful

end Attending

/-- What a step does to what a watcher has been told and has yet to be told about an object: it
leaves both alone, or announces one thing more, or tells it the latest that it has not been told. -/
inductive Hears (W : Watcher) (x : ObjectId) (s t : State ν) : Prop
  | idle (hnews : t.news? W.manager x = none) (hheard : W.heard x t = W.heard x s)
      (hdue : W.due x t = W.due x s)
  | announced (added : Bool) (hnews : t.news? W.manager x = some added)
      (hheard : W.heard x t = W.heard x s) (hdue : W.due x t = added :: W.due x s)
  | received (added : Bool) (hnews : t.news? W.manager x = none)
      (hheard : W.heard x t = W.heard x s ++ [added]) (hdue : W.due x s = added :: W.due x t)

section Hears

variable {s t : State ν}

/-- A step that calls nothing and leaves the deliveries alone announces at most one thing. -/
theorem hears_of_same (hnone : s.control.begun? = none) (hcalls : t.calls = s.calls)
    (hpending : t.pending = s.pending) : Hears W x s t := by
  have hheard : W.heard x t = W.heard x s := by rw [heard, heard, hcalls]
  have hbefore : s.news? W.manager x = none := by
    rw [State.news?, hnone]
    rfl
  cases hnews : t.news? W.manager x with
  | none => exact .idle hnews hheard (by rw [due, due, hnews, hbefore, hpending])
  | some added =>
    refine .announced added hnews hheard ?_
    rw [due, due, hnews, hbefore, hpending]
    rfl

variable {p q : Pending} {P : List Pending}

/-- A step with a delivery that has the same to tell afterwards. -/
theorem hears_of_turn (hbefore : s.control.begun? = none) (hafter : t.control.begun? = none)
    (hheard : W.heard x t = W.heard x s) (hp : s.pending = p :: P) (hq : t.pending = q :: P)
    (hdue : W.due? x q = W.due? x p) : Hears W x s t := by
  refine .idle (by rw [State.news?, hafter]; rfl) hheard ?_
  rw [due, due, State.news?, State.news?, hafter, hbefore, hp, hq, List.filterMap_cons,
    List.filterMap_cons, hdue]

/-- A step that ends a delivery that has nothing to tell. -/
theorem hears_of_end (hbefore : s.control.begun? = none) (hafter : t.control.begun? = none)
    (hheard : W.heard x t = W.heard x s) (hp : s.pending = p :: P) (hP : t.pending = P)
    (hdue : W.due? x p = none) : Hears W x s t := by
  refine .idle (by rw [State.news?, hafter]; rfl) hheard ?_
  rw [due, due, State.news?, State.news?, hafter, hbefore, hp, hP, List.filterMap_cons_none hdue]

/-- A call of one of the watcher's handlers tells it what the delivery had to tell it. -/
theorem Attends.hears_of_attempt {w : World ν} {scope : Scope} {delivery : Delivery} {added : Bool}
    {rest : List BoundHandler} {K : List (Frame ν)} {program : Program ν}
    (h : W.Attends app ⟨w, .deliver scope delivery (W.handler added :: rest), K⟩)
    (hs : Reachable app ⟨w, .deliver scope delivery (W.handler added :: rest), K⟩)
    (hfaithful : W.Faithful app ⟨w, .deliver scope delivery (W.handler added :: rest), K⟩)
    {part : Event}
    (hpart : delivery.event.part? (app.maxDepth scope.manager) (W.handler added).eventType
      = some part) :
    Hears W x ⟨w, .deliver scope delivery (W.handler added :: rest), K⟩
      ⟨(w.record scope (.attempted delivery (W.handler added))).record scope
          (.called delivery (W.handler added) part),
        .run scope program, .attempt scope delivery (W.handler added) rest :: K⟩ := by
  have hmem : ⟨scope, delivery, W.handler added :: rest⟩
      ∈ State.pending ⟨w, .deliver scope delivery (W.handler added :: rest), K⟩ :=
    List.mem_cons_self
  have hmanager : scope.manager = W.manager := h.manager_eq_of_pending hs hmem List.mem_cons_self
  rw [hmanager, h.eventType_eq hs] at hpart
  have hevent := hfaithful _ hmem added List.mem_cons_self part hpart
  have htype := Event.type_of_part? (EventType.announcement_ne_any added) hpart
  obtain rfl : part = delivery.event := hevent
  have hreceives : W.receives? x ⟨⟨scope, delivery, W.handler added⟩, delivery.event⟩
      = delivery.event.news? x := if_pos ⟨added, rfl⟩
  have hnodup := hs.nodup_rest hmem
  rw [List.nodup_cons] at hnodup
  cases hnews : delivery.event.news? x with
  | none =>
    refine hears_of_turn rfl rfl ?_ rfl rfl ?_
    · simp [heard, State.calls, Entry.call?, hreceives, hnews]
    · rw [due?, due?, hnews]
      rfl
  | some added' =>
    obtain rfl : added' = added :=
      EventType.announcement_inj ((Event.type_of_news? hnews).symm.trans htype)
    refine .received added' rfl ?_ ?_
    · simp [heard, State.calls, Entry.call?, hreceives, hnews]
    · have hbefore : W.due? x ⟨scope, delivery, W.handler added' :: rest⟩ = some added' := by
        rw [due?, hnews]
        simp
      have hafter : W.due? x ⟨scope, delivery, rest⟩ = none := by
        rw [due?, hnews]
        simp [hnodup.1]
      exact (List.filterMap_cons_some hbefore).trans
        (congrArg _ (List.filterMap_cons_none hafter).symm)

variable (h : W.Attends app s) (hs : Reachable app s)
include h hs

/-- A delivery that a panic may end has nothing to tell the watcher. -/
theorem Attends.due?_eq_none_of_uncontained
    (hcontain : (app.settings W.manager).containPanics = true) {p : Pending} (hp : p ∈ s.pending)
    (huncontained : (app.settings p.scope.manager).containPanics = false) :
    W.due? x p = none := by
  apply W.due?_eq_none x
  intro added hadded
  rw [h.manager_eq_of_pending hs hp hadded, hcontain] at huncontained
  cases huncontained

theorem Attends.hears (hmove : Move app s t) (hfaithful : W.Faithful app s)
    (hcontain : (app.settings W.manager).containPanics = true) (x : ObjectId) :
    Hears W x s t := by
  have hf : World.SkipsRoutine (Entry.call? : Entry ν → Option Call) := skipsRoutine_call?
  cases hmove with
  | dispatch w scope origin event K =>
    have hcalls : (w.launch app scope origin event).read Entry.call? = w.read Entry.call? :=
      (w.read_launch scope hf app origin event).trans (List.append_nil _)
    refine .idle rfl (congrArg (List.filterMap (W.receives? x)) hcalls) ?_
    -- What was about to be announced is what the delivery has to tell now.
    have hplan := h.due?_plan (x := x) hs rfl w.nextDispatch
    have hbefore : State.news? W.manager x ⟨w, .dispatch scope origin event, K⟩
        = Begun.news? W.manager x ⟨scope, origin, event⟩ := rfl
    rw [due, due, hbefore, ← hplan, List.filterMap_eq_flatMap_toList,
      List.filterMap_eq_flatMap_toList]
    exact (List.nil_append _).trans List.flatMap_cons
  | attempt w scope delivery b rest part K hpart =>
    by_cases hown : ∃ added, b = W.handler added
    · obtain ⟨added, rfl⟩ := hown
      exact h.hears_of_attempt hs hfaithful hpart
    · -- The handler is not one of the watcher's.
      refine hears_of_turn rfl rfl ?_ rfl rfl ?_
      · have hnone : W.receives? x ⟨⟨scope, delivery, b⟩, part⟩ = none := if_neg hown
        simp [heard, State.calls, Entry.call?, hnone]
      · exact (W.due?_cons x fun added _ heq => hown ⟨added, heq⟩).symm
  | mismatch w scope delivery b rest K hpart =>
    refine hears_of_turn rfl rfl (by simp [heard, State.calls, Entry.call?]) rfl rfl ?_
    refine (W.due?_cons x ?_).symm
    rintro added hnews rfl
    -- A handler that an announcement is for is given the announcement.
    have hmanager : scope.manager = W.manager :=
      h.manager_eq_of_pending hs (p := ⟨scope, delivery, _⟩) List.mem_cons_self List.mem_cons_self
    rw [hmanager, h.eventType_eq hs,
      Event.part?_of_type (h.maxDepth_pos hs) (Event.type_of_news? hnews)] at hpart
    cases hpart
  | complete w scope delivery K =>
    exact hears_of_end rfl rfl (by simp [heard, State.calls, Entry.call?]) rfl rfl
      (W.due?_eq_none x (by simp))
  | escape w payload scope delivery b rest K hescape =>
    exact hears_of_end rfl rfl rfl rfl rfl
      (h.due?_eq_none_of_uncontained hs hcontain List.mem_cons_self hescape)
  | abandonReport w payload scope delivery b failure rest K =>
    exact hears_of_end rfl rfl rfl rfl rfl
      (h.due?_eq_none_of_uncontained hs hcontain List.mem_cons_self
        (hs.nested.containPanics_of_reporting rfl rfl))
  | kept w scope operation k fs reply K hop hfs | stall w scope operation k fs K hop hfs =>
    exact hears_of_same rfl (w.read_chronicle scope hf hfs k) rfl
  | joined w scope operation o type fs K hop htype hcheck hnew hfs =>
    refine hears_of_same rfl ?_ rfl
    rw [State.calls, World.read_enter, w.read_join scope hf hfs]
    rfl
  | parted w scope operation o member fs K hop hmember hfs =>
    refine hears_of_same rfl ?_ rfl
    rw [State.calls, World.read_enter, w.read_part scope hf hfs]
    rfl
  | spawned => exact hears_of_same rfl rfl rfl
  | rest w control K hended =>
    exact hears_of_same (begun?_eq_none_of_isOutcome hended) rfl rfl
  | _ => exact hears_of_same rfl (by simp [State.calls, Entry.call?]) rfl

end Hears

/-! ## From the watcher's registration on -/

/-- When nothing is under way there is nothing that the watcher has yet to be told. -/
theorem due_of_result {s : State ν} {r : Except Payload Reply} (hr : s.result? = some r) :
    W.due x s = [] := by
  have hstack := State.stack_of_result hr
  obtain ⟨w, control, K⟩ := s
  obtain rfl : K = [] := hstack
  cases control with
  | answered | unwinding => rfl
  | _ => cases hr

/-- When the registration of the watcher is about to be announced, it has been told nothing, and no
delivery under way is for it. -/
theorem Attends.unheard_of_added {s : State ν} (h : W.Attends app s) (hs : Reachable app s)
    {thread : ThreadId} {name : String}
    (hcontrol : s.control
      = .dispatch ⟨thread, W.manager⟩ .membership (.observerAdded W.member.observer name))
    (hx : x ∉ (s.world.manager W.manager).registry.objects) :
    W.Faithful app s ∧ W.heard x s = [] ∧ W.due x s = [] := by
  have hfresh (added : Bool) (m : ManagerId) : (m, W.handler added) ∉ s.handlers :=
    hs.not_mem_handlers_of_added _ _ name hcontrol W.member h.registered rfl _ (W.mem_bound added) m
  have hrest : ∀ p ∈ s.pending, ∀ added, W.handler added ∉ p.rest := by
    intro p hp added hadded
    exact hfresh added _ (State.mem_handlers_of_pending hp hadded)
  refine ⟨?_, ?_, ?_⟩
  · intro p hp added hadded
    exact absurd hadded (hrest p hp added)
  · rw [heard, List.filterMap_eq_nil_iff]
    intro c hc
    rw [receives?, if_neg]
    rintro ⟨added, hadded⟩
    have hmem := State.mem_handlers_of_calls hc
    rw [hadded] at hmem
    exact hfresh added _ hmem
  · have hne : W.member.observer ≠ x := by
      rintro rfl
      exact hx (List.mem_map_of_mem h.registered)
    have hnews : s.news? W.manager x = none := by
      rw [State.news?, hcontrol]
      simp [Control.begun?, Begun.news?, Event.news?, hne]
    rw [due, hnews, List.filterMap_eq_nil_iff.2 fun p hp => W.due?_eq_none x (hrest p hp)]
    rfl

section Session

variable {s t : State ν} (hs : Reachable app s)
  (hcontain : (app.settings W.manager).containPanics = true) (hfaithful : W.Faithful app s)
include hs hfaithful

theorem faithful_of_continues (ht : Continues app (W.Attends app) s t) : W.Faithful app t := by
  apply ht.induction hs (Q := W.Faithful app) (fun _ => hfaithful)
  · intro t t' _ ht hP _ hmove ih
    exact hP.faithful ht hmove ih
  · intro t r command _ _ _ _ _ p hp
    cases hp

variable (hheard : W.heard x s = []) (hdue : W.due x s = [])
include hcontain hheard hdue

/-- What has been announced about the object since then is what the watcher has been told and what
it has yet to be told. -/
theorem perm_newsOf (ht : Continues app (W.Attends app) s t) :
    (t.newsOf W.manager x).Perm (s.newsOf W.manager x ++ (W.heard x t ++ W.due x t)) := by
  apply ht.induction hs (Q := fun t =>
    (t.newsOf W.manager x).Perm (s.newsOf W.manager x ++ (W.heard x t ++ W.due x t)))
  · intro _
    rw [hheard, hdue, List.append_nil, List.append_nil]
  · intro t t' hcontinues ht hP _ hmove ih
    have hfaithful := faithful_of_continues hs hfaithful hcontinues
    rw [hmove.newsOf]
    cases hP.hears ht hmove hfaithful hcontain x with
    | idle hnews hheard hdue =>
      rw [hnews, hheard, hdue, Option.toList_none, List.append_nil]
      exact ih
    | announced added hnews hheard hdue =>
      rw [hnews, hheard, hdue, Option.toList_some]
      refine (ih.append_right _).trans ?_
      rw [List.append_assoc, List.append_assoc]
      exact (List.perm_append_comm.append_left _).append_left _
    | received added hnews hheard hdue =>
      rw [hdue] at ih
      rw [hnews, hheard, Option.toList_none, List.append_nil, List.append_assoc (W.heard x t)]
      exact ih
  · intro t r command _ hr _ _ ih
    rw [due_of_result hr] at ih
    rw [State.newsOf_start hr]
    exact ih

/-- If nothing is announced about the object while the watcher has yet to be told of an earlier
announcement, it is told of the announcements in their order, each before the next is made. -/
theorem newsOf_eq (ht : Continues app (fun u => W.Attends app u ∧ W.InTime x u) s t) :
    t.newsOf W.manager x = s.newsOf W.manager x ++ (W.heard x t ++ W.due x t) ∧
      (W.due x t).length ≤ 1 := by
  apply ht.induction hs (Q := fun t =>
    t.newsOf W.manager x = s.newsOf W.manager x ++ (W.heard x t ++ W.due x t) ∧
      (W.due x t).length ≤ 1)
  · intro _
    rw [hheard, hdue, List.append_nil, List.append_nil]
    exact ⟨rfl, Nat.zero_le _⟩
  · intro t t' hcontinues ht hP hP' hmove ⟨ih, hlength⟩
    have hfaithful := faithful_of_continues hs hfaithful (hcontinues.mono fun _ => And.left)
    rw [hmove.newsOf, ih]
    cases hP.1.hears ht hmove hfaithful hcontain x with
    | idle hnews hheard hdue =>
      rw [hnews, hheard, hdue, Option.toList_none, List.append_nil]
      exact ⟨rfl, hlength⟩
    | announced added hnews hheard hdue =>
      -- All earlier announcements have reached the watcher.
      have honly : W.due x t' = [added] := by
        rw [due, hP'.2 (by rw [hnews]; rfl), hnews]
        rfl
      have hnone : W.due x t = [] := (List.cons.inj (hdue.symm.trans honly)).2
      rw [hnews, hheard, honly, hnone, Option.toList_some, List.append_nil, List.append_assoc]
      exact ⟨rfl, Nat.le_refl _⟩
    | received added hnews hheard hdue =>
      rw [hdue, List.length_cons] at hlength
      rw [hnews, hheard, hdue, Option.toList_none, List.append_nil, List.append_assoc (W.heard x t)]
      exact ⟨rfl, by omega⟩
  · rintro t r command _ hr _ _ ⟨ih, -⟩
    rw [due_of_result hr] at ih
    rw [State.newsOf_start hr]
    exact ⟨ih, Nat.zero_le _⟩

end Session

end Watcher

/-! ## What a watcher knows -/

/-- A watcher of a manager that contains panics, from its registration on: whenever nothing is under
way it has been told once of everything that has been announced since then about an object that was
not registered, so it has been told of one addition more than of removals if the object is
registered, and of equally many otherwise. As long as the object is not added or removed while an
earlier announcement about it has yet to reach the watcher, what it is told alternates, from an
addition on, and whenever nothing is under way the last that it has been told is an addition exactly
if the object is registered. -/
theorem Reachable.watcher_mirrors {s : State ν} (hs : Reachable app s) (W : Watcher)
    {thread : ThreadId} {name : String}
    (hcontrol : s.control
      = .dispatch ⟨thread, W.manager⟩ .membership (.observerAdded W.member.observer name))
    (hcontain : (app.settings W.manager).containPanics = true) {x : ObjectId}
    (hx : x ∉ (s.world.manager W.manager).registry.objects) :
    (∀ t, Continues app (W.Attends app) s t → t.result?.isSome = true →
      (t.newsOf W.manager x).Perm (s.newsOf W.manager x ++ W.heard x t) ∧
      (W.heard x t).count true = (W.heard x t).count false
        + if x ∈ (t.world.manager W.manager).registry.objects then 1 else 0) ∧
    (∀ t, Continues app (fun u => W.Attends app u ∧ W.InTime x u) s t →
      List.IsChain (· ≠ ·) (false :: W.heard x t) ∧
      (t.result?.isSome = true →
        ((W.heard x t).getLast? = some true
          ↔ x ∈ (t.world.manager W.manager).registry.objects))) := by
  obtain ⟨hchain, hlast⟩ := hs.isChain_newsOf W.manager x
  rw [decide_eq_false hx] at hlast
  constructor
  · intro t ht hended
    obtain ⟨r, hr⟩ := Option.isSome_iff_exists.1 hended
    obtain ⟨hfaithful, hheard, hdue⟩ := ht.holds_start.unheard_of_added hs hcontrol hx
    have hperm := Watcher.perm_newsOf hs hcontain hfaithful hheard hdue ht
    rw [Watcher.due_of_result hr, List.append_nil] at hperm
    refine ⟨hperm, ?_⟩
    -- Additions and removals balance before the registration of the watcher.
    obtain ⟨hchain', hlast'⟩ := (ht.reachable hs).isChain_newsOf W.manager x
    have hbefore := count_of_isChain hchain
    have hafter := count_of_isChain hchain'
    rw [hlast] at hbefore
    rw [hlast', hperm.count_eq, hperm.count_eq, List.count_append, List.count_append] at hafter
    split
    · rename_i hmem
      simp [hmem] at hbefore hafter
      omega
    · rename_i hmem
      simp [hmem] at hbefore hafter
      omega
  · intro t ht
    obtain ⟨hfaithful, hheard, hdue⟩ := ht.holds_start.1.unheard_of_added hs hcontrol hx
    obtain ⟨hnews, -⟩ := Watcher.newsOf_eq hs hcontain hfaithful hheard hdue ht
    obtain ⟨hchain', hlast'⟩ := (ht.reachable hs).isChain_newsOf W.manager x
    rw [hnews] at hchain' hlast'
    have hrest := isChain_getLastD hchain'
    rw [hlast, ← List.cons_append] at hrest
    refine ⟨hrest.left_of_append, ?_⟩
    intro hended
    obtain ⟨r, hr⟩ := Option.isSome_iff_exists.1 hended
    rw [Watcher.due_of_result hr, List.append_nil, getLastD_append, hlast] at hlast'
    rw [← decide_eq_true_iff (p := x ∈ _), ← hlast', List.getLastD_eq_getLast?]
    cases (W.heard x t).getLast? with
    | none => simp
    | some added => simp

/-- Whether a program asks for no operation and does not fail. -/
inductive Program.Harmless : Program ν → Prop
  | finish : Harmless (.finish (.ok ()))
  | note {entry : ν} {next : Program ν} (hnext : next.Harmless) : Harmless (.note entry next)
  | recall {next : Array (ManagerId × ν) → Program ν} (hnext : ∀ notes, (next notes).Harmless) :
      Harmless (.recall next)

/-- A meddler that removes an object when any object has been added, a mirror that is told of
additions and removals, and a guest. -/
def meddling : Script.Cast where
  hierarchy := ⟨fun _ => none⟩
  names := ⟨fun _ => "Event", fun _ => .labelled "Event"⟩
  managers := [{}]
  roles := [
    some ⟨"Meddler", false, [⟨⟨.invoke, .observerAdded, "expel"⟩, false,
      [⟨.act ⟨.remove 2, 0, .direct⟩ false, 0, none, none⟩]⟩]⟩,
    some ⟨"Mirror", false, [⟨⟨.invoke, .observerAdded, "enter"⟩, false, []⟩,
      ⟨⟨.invoke, .observerRemoved, "leave"⟩, false, []⟩]⟩,
    some ⟨"Guest", false, [⟨⟨.invoke, .custom 0, "listen"⟩, false, []⟩]⟩]

/-- The mirror as a watcher whose handlers are numbered from `firstId` on. -/
def mirror (firstId : Nat) : Watcher where
  manager := 0
  member := .build 1 "Mirror"
    [⟨.invoke, .observerAdded, "enter"⟩, ⟨.invoke, .observerRemoved, "leave"⟩] firstId
  phase := .invoke
  handler added := if added
    then ⟨firstId, 1, 0, ⟨"Mirror", "enter", .invoke, .observerAdded⟩⟩
    else ⟨firstId + 1, 1, 1, ⟨"Mirror", "leave", .invoke, .observerRemoved⟩⟩
  finds added := by cases added <;> rfl

/-- The state in which the registration of the mirror is about to be announced, after some earlier
commands. -/
def mirrorState (earlier : List Command) : State Script.Note :=
  (State.start (World.after meddling.application 30 {} earlier) { operation := .add 1 }).steps
    meddling.application 2

/-- The state in which an object is about to be added after a command has ended. -/
def additionAfter (s : State Script.Note) (o : ObjectId) : State Script.Note :=
  .start (s.steps meddling.application 30).world { operation := .add o }

theorem Continues.additionAfter {P : State Script.Note → Prop} {s t : State Script.Note}
    (h : Continues meddling.application P s t) {o : ObjectId}
    (hsteps : ∀ k ≤ 30, P (t.steps meddling.application k))
    (hended : (t.steps meddling.application 30).result? = some (.ok (.flag true)))
    (hnext : P (EventDispatch.additionAfter t o)) :
    Continues meddling.application P s (EventDispatch.additionAfter t o) :=
  (h.trans (.of_steps hsteps)).next _ hended hnext

/-- The state in which the meddler and the guest have been added after the mirror. -/
def earlyState : State Script.Note :=
  (additionAfter (additionAfter (mirrorState []) 0) 2).steps meddling.application 30

/-- A mirror that has been added before the meddler is told of the guest's addition first and then
of its removal, so that it knows that the guest is gone. -/
theorem early_mirror_knows_guest_gone :
    Reachable meddling.application (mirrorState []) ∧
      Continues meddling.application
        (fun u => (mirror 0).Attends meddling.application u ∧ (mirror 0).InTime 2 u)
        (mirrorState []) earlyState ∧
      earlyState.result?.isSome = true ∧ (mirror 0).heard 2 earlyState = [true, false] ∧
      (earlyState.newsOf 0 2).Perm ((mirrorState []).newsOf 0 2 ++ [true, false]) ∧
      List.IsChain (· ≠ ·) [false, true, false] ∧
      2 ∉ (earlyState.world.manager 0).registry.objects := by
  have hs : Reachable meddling.application (mirrorState []) :=
    (Reachable.after _ (fun _ => .start _) (by decide +kernel)).steps 2
  have hfirst : Continues meddling.application
      (fun u => (mirror 0).Attends meddling.application u ∧ (mirror 0).InTime 2 u)
      (mirrorState []) (mirrorState []) := .refl (by decide +kernel)
  have hmeddler := hfirst.additionAfter (o := 0) (by decide +kernel) (by rfl) (by decide +kernel)
  have hguest := hmeddler.additionAfter (o := 2) (by decide +kernel) (by rfl) (by decide +kernel)
  have hall : Continues meddling.application _ (mirrorState []) earlyState :=
    hguest.trans (.of_steps (by decide +kernel))
  have hended : earlyState.result?.isSome = true := by decide +kernel
  have hheard : (mirror 0).heard 2 earlyState = [true, false] := by decide +kernel
  obtain ⟨htold, horder⟩ :=
    hs.watcher_mirrors (mirror 0) (x := 2) (by rfl) (by rfl) (by decide +kernel)
  obtain ⟨hperm, -⟩ := htold _ (hall.mono fun _ => And.left) hended
  obtain ⟨hchain, hlast⟩ := horder _ hall
  rw [hheard] at hperm hchain hlast
  refine ⟨hs, hall, hended, hheard, hperm, hchain, ?_⟩
  intro hmem
  exact absurd ((hlast hended).2 hmem) (by decide)

/-- The state in which the guest has been added after the meddler and the mirror. -/
def lateState : State Script.Note :=
  (additionAfter (mirrorState [{ operation := .add 0 }]) 2).steps meddling.application 30

/-- A mirror that has been added after the meddler is told of the guest's removal first, since the
meddler removes the guest before the announcement of its addition gets to the mirror. What a watcher
is told need not alternate, and the last that it has been told need not be so, although its handlers
ask for no operation and do not fail. -/
theorem not_always_mirrored :
    ¬ ∀ (app : Application Script.Note) (s t : State Script.Note) (W : Watcher)
      (thread : ThreadId) (name : String) (x : ObjectId), Reachable app s →
      s.control
        = .dispatch ⟨thread, W.manager⟩ .membership (.observerAdded W.member.observer name) →
      (∀ m, (app.settings m).validate = .ok () ∧ (app.settings m).containPanics = true) →
      (∀ added part, (app.program W.manager W.member.observer (W.handler added).binding
        part).Harmless) →
      x ∉ (s.world.manager W.manager).registry.objects →
      Continues app (W.Attends app) s t → t.result?.isSome = true →
      List.IsChain (· ≠ ·) (false :: W.heard x t) ∧
        ((W.heard x t).getLast? = some true
          ↔ x ∈ (t.world.manager W.manager).registry.objects) := by
  intro h
  have hs : Reachable meddling.application (mirrorState [{ operation := .add 0 }]) :=
    (Reachable.after _ (fun _ => .start _) (by decide +kernel)).steps 2
  have hfirst : Continues meddling.application ((mirror 1).Attends meddling.application)
      (mirrorState [{ operation := .add 0 }]) (mirrorState [{ operation := .add 0 }]) :=
    .refl (by decide +kernel)
  have hguest := hfirst.additionAfter (o := 2) (by decide +kernel) (by rfl) (by decide +kernel)
  have hall : Continues meddling.application ((mirror 1).Attends meddling.application)
      (mirrorState [{ operation := .add 0 }]) lateState :=
    hguest.trans (.of_steps (by decide +kernel))
  have hharmless : ∀ added part, (meddling.application.program 0 1
      ((mirror 1).handler added).binding part).Harmless := by
    intro added part
    cases added <;> exact .recall fun _ => .note .finish
  have hsettings : ∀ m, (meddling.application.settings m).validate = .ok () ∧
      (meddling.application.settings m).containPanics = true := by
    intro m
    cases m <;> exact ⟨rfl, rfl⟩
  obtain ⟨hchain, -⟩ := h _ _ lateState (mirror 1) 0 _ 2 hs (by rfl) hsettings hharmless
    (by decide +kernel) hall (by decide +kernel)
  have hheard : (mirror 1).heard 2 lateState = [false, true] := by decide +kernel
  rw [hheard] at hchain
  exact absurd hchain (by decide)

end EventDispatch
