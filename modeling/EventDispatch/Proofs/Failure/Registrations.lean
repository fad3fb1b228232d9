import Mathlib.Data.List.Nodup
import EventDispatch.Proofs.Failure.Reports
import EventDispatch.Proofs.Registry.Identity
import EventDispatch.Script.Play

/-!
# Reports and registrations

A post is what a handler is bound for: an object, a phase and an event type. The guard of a fire
knows handlers by their numbers, and an object that is added again gets a new handler for each of
its posts. So what is reported at most once in a fire is a registration's handler, not a post:
within an outermost fire a post is reported once for each registration whose handler's first failure
calls for a report, and registrations are those that are there when the fire begins and those that
are made in it (`Reachable.reports_per_registration`).
-/

set_option autoImplicit false

namespace EventDispatch

variable {ν : Type} {app : Application ν}

/-! ## Posts -/

/-- What a handler is bound for. -/
structure Post where
  object : ObjectId
  phase : Phase
  type : EventType
  deriving DecidableEq, Repr

/-- The post of a handler. -/
def BoundHandler.post (b : BoundHandler) : Post := ⟨b.observer, b.descriptor.phase, b.eventType⟩

/-- The post whose failure an event reports. -/
def Event.reportedPost? : Event → Option Post
  | .observerFailed observer handler _ _ => some ⟨observer, handler.phase, handler.eventType⟩
  | _ => none

@[simp] theorem FailedAttempt.reportedPost?_report (a : FailedAttempt) :
    a.report.reportedPost? = some a.handler.post :=
  rfl

/-- Whether a dispatch in a scope is that of a report about a post. -/
def Begun.reportsOn (sc : Scope) (post : Post) (d : Begun) : Bool :=
  d.isReport && d.scope = sc && d.event.reportedPost? = some post

/-- Whether a dispatch announces that an object has been added to a manager. -/
def Begun.adds (m : ManagerId) (o : ObjectId) (d : Begun) : Bool :=
  match d.origin, d.event with
  | .membership, .observerAdded observer _ => d.scope.manager = m && observer = o
  | _, _ => false

/-- A registry holds at most one handler for a post. -/
theorem World.Sound.eq_of_post {w : World ν} (hw : w.Sound app) {m : ManagerId}
    {b b' : BoundHandler} (hb : w.HasHandler m b) (hb' : w.HasHandler m b')
    (hpost : b.post = b'.post) : b = b' := by
  obtain ⟨member, hmember, hb⟩ := hb
  obtain ⟨member', hmember', hb'⟩ := hb'
  obtain ⟨hobserver, hphase, htype⟩ := Post.mk.inj hpost
  have hmade := (hw m).made hmember
  have hmade' := (hw m).made hmember'
  have hobject : member.observer = member'.observer := by
    rw [← hmade.observer_eq hb, ← hmade'.observer_eq hb', hobserver]
  -- No object is registered twice, so both handlers come of one registration.
  obtain rfl : member = member' := List.inj_on_of_nodup_map (hw m).nodup hmember hmember' hobject
  obtain ⟨type, firstId, -, hcheck, -, hbuild⟩ := hmade
  rw [hbuild] at hb hb'
  exact Member.eq_of_mem_handlers (Binding.pairwise_of_check hcheck)
    (Member.mem_handlers_of_mem_bound_build hb) (Member.mem_handlers_of_mem_bound_build hb') hphase
    htype

theorem World.HasHandler.holds {w : World ν} (hw : w.Sound app) {m : ManagerId}
    {b : BoundHandler} (hb : w.HasHandler m b) :
    (w.manager m).registry.holds b.observer = true := by
  obtain ⟨member, hmember, hb⟩ := hb
  rw [((hw m).made hmember).observer_eq hb, Registry.holds_iff]
  exact List.mem_map.2 ⟨member, hmember, rfl⟩

/-! ## One step -/

section Step

variable {s t t' : State ν} {K K' : List (Frame ν)}

/-- A handler that comes into the registry is announced with its object at once. -/
theorem Move.hasHandler_cases (h : Move app t t') {m : ManagerId} {b : BoundHandler}
    (hb : t'.world.HasHandler m b) :
    t.world.HasHandler m b ∨
      t'.control.begun?.toList.countP (Begun.adds m b.observer) = 1 := by
  cases h with
  | joined w scope operation o type fs K =>
    rcases hb.of_join with hold | ⟨rfl, hnew⟩
    · exact .inl hold
    · right
      obtain ⟨i, x, -, rfl⟩ := (Member.mem_handlers ..).1 hnew
      simp [Control.begun?, Begun.adds]
  | parted => exact .inl hb.of_part
  | dispatch => exact .inl hb.of_launch
  | spawned => exact .inl hb
  | _ =>
    left
    simpa [World.HasHandler] using hb

/-- The handlers that a control and the frames above others may still have to do with. -/
def Control.pending (control : Control ν) (K : List (Frame ν)) : List (ManagerId × BoundHandler) :=
  control.handlers ++ K.flatMap Frame.handlers

/-- A step brings up no handlers but those of a plan. -/
theorem Move.pending_cases (h : Move app t t') (hK : t.stack = K ++ s.stack)
    (hK' : t'.stack = K' ++ s.stack) {x : ManagerId × BoundHandler}
    (hx : x ∈ t'.control.pending K') :
    x ∈ t.control.pending K ∨ ∃ scope origin event, t.control = .dispatch scope origin event ∧
      x.1 = scope.manager ∧ x.2 ∈ (t.world.resolve app scope event.type).1.toList := by
  cases h with
  | dispatch w scope origin event K =>
    rw [frames_of_same hK hK' rfl] at hx
    rcases List.mem_append.1 hx with hrest | hframes
    · obtain ⟨b, hb, rfl⟩ := List.mem_map.1 hrest
      exact .inr ⟨scope, origin, event, rfl, rfl, hb⟩
    · exact .inl (List.mem_append_right _ hframes)
  | call | caught | spawned | joined | parted | fire | attempt | report =>
    left
    rw [frames_of_push hK hK' rfl] at hx
    simp only [Control.pending, Control.handlers, Frame.handlers, List.flatMap_cons] at hx ⊢
    grind
  | succeeded | failed | close | reported | resume | uncaught | wait | panicked | escape | abandon
      | abandonReport | contain | unwindBody | unwindThread =>
    left
    rw [frames_of_push hK' hK rfl]
    simp only [Control.pending, Control.handlers, Frame.handlers, List.flatMap_cons] at hx ⊢
    grind
  | _ =>
    left
    rw [frames_of_same hK hK' rfl] at hx
    simp only [Control.pending, Control.handlers] at hx ⊢
    grind

/-- A report is made for a handler that the control is dealing with. -/
theorem Move.report_cases (h : Move app t t') {sc : Scope} {d : Begun}
    (hd : t'.control.begun? = some d) {i : Nat} {event : Event}
    (hreport : d.reportIn? sc = some (i, event)) :
    ∃ b, (sc.manager, b) ∈ t.control.handlers ∧ i = b.id ∧ event.reportedPost? = some b.post := by
  cases h with
  | report w scope delivery b failure rest K =>
    cases hd
    simp only [Begun.reportIn?] at hreport
    split at hreport
    · rename_i hscope
      subst hscope
      cases hreport
      exact ⟨b, List.mem_cons_self, rfl, rfl⟩
    · cases hreport
  | joined | parted | fire =>
    cases hd
    cases hreport
  | rest w control K hended =>
    rw [begun?_eq_none_of_isOutcome hended] at hd
    cases hd
  | _ => cases hd

/-- A list holds the numbers of all handlers for a post that are registered with a manager and of
those that may still be attempted above some frames. -/
structure Traced (m : ManagerId) (post : Post) (L : List Nat) (K : List (Frame ν)) (t : State ν) :
    Prop where
  registered : ∀ {b : BoundHandler}, t.world.HasHandler m b → b.post = post → b.id ∈ L
  pending : ∀ {b : BoundHandler}, (m, b) ∈ t.control.pending K → b.post = post → b.id ∈ L

/-- The list has to be made longer only when the object of the post is added. -/
theorem Move.traced (h : Move app t t') {m : ManagerId} {post : Post} {L : List Nat}
    (ht : Traced m post L K t) (hsound : t.world.Sound app) (hsound' : t'.world.Sound app)
    (hK : t.stack = K ++ s.stack) (hK' : t'.stack = K' ++ s.stack) :
    ∃ L', L ⊆ L' ∧
      L'.length ≤ L.length + t'.control.begun?.toList.countP (Begun.adds m post.object) ∧
      Traced m post L' K' t' := by
  have hpending {b : BoundHandler} (hb : (m, b) ∈ t'.control.pending K') (hpost : b.post = post) :
      b.id ∈ L := by
    rcases h.pending_cases hK hK' hb with hold | ⟨scope, origin, event, -, hm, hplan⟩
    · exact ht.pending hold hpost
    · obtain rfl : m = scope.manager := hm
      rw [hsound.resolve_eq] at hplan
      exact ht.registered (ManagerState.mem_of_mem_currentPlan hplan) hpost
  by_cases hnew : ∃ b, t'.world.HasHandler m b ∧ b.post = post ∧ b.id ∉ L
  · obtain ⟨b, hb, hpost, hnot⟩ := hnew
    refine ⟨L ++ [b.id], List.subset_append_left L [b.id], ?_, ?_, ?_⟩
    · rcases h.hasHandler_cases hb with hold | hadds
      · exact absurd (ht.registered hold hpost) hnot
      · have hobject : b.observer = post.object := congrArg Post.object hpost
        exact Nat.le_of_eq (by rw [← hobject, hadds, List.length_append, List.length_singleton])
    · -- The registry holds no other handler for the post.
      intro b' hb' hpost'
      rw [hsound'.eq_of_post hb' hb (hpost'.trans hpost.symm)]
      exact List.mem_append_right L (List.mem_singleton_self b.id)
    · intro b' hb' hpost'
      exact List.mem_append_left [b.id] (hpending hb' hpost')
  · refine ⟨L, List.Subset.refl L, Nat.le_add_right _ _, ?_, hpending⟩
    intro b hb hpost
    exact Classical.not_not.1 fun hnot => hnew ⟨b, hb, hpost, hnot⟩

end Step

/-! ## A whole fire -/

/-- How many registrations of an object there are with a manager: one or none. -/
def World.registrations (w : World ν) (m : ManagerId) (o : ObjectId) : Nat :=
  if (w.manager m).registry.holds o then 1 else 0

section Fire

variable {s t : State ν}

/-- At the start of a dispatch the handlers for a post are those of the registry. -/
theorem exists_traced (hs : s.world.Sound app) (hcontrol : s.control.handlers = []) (m : ManagerId)
    (post : Post) :
    ∃ L : List Nat, L.length ≤ s.world.registrations m post.object ∧ Traced m post L [] s := by
  have hpending {L : List Nat} {b : BoundHandler} (hb : (m, b) ∈ s.control.pending []) :
      b.post = post → b.id ∈ L := by
    rw [Control.pending, hcontrol] at hb
    cases hb
  by_cases hold : ∃ b, s.world.HasHandler m b ∧ b.post = post
  · obtain ⟨b, hb, hpost⟩ := hold
    refine ⟨[b.id], ?_, ?_, hpending⟩
    · have hobject : b.observer = post.object := congrArg Post.object hpost
      rw [World.registrations, ← hobject, if_pos (hb.holds hs)]
      exact Nat.le_refl 1
    · intro b' hb' hpost'
      rw [hs.eq_of_post hb' hb (hpost'.trans hpost.symm)]
      exact List.mem_singleton_self b.id
  · refine ⟨[], Nat.zero_le _, ?_, hpending⟩
    intro b hb hpost
    exact absurd ⟨b, hb, hpost⟩ hold

/-- A list with one number for each registration of the object of a post, those at the start and
those among some dispatches since, covers the reports about the post among these dispatches. -/
structure Covers (sc : Scope) (post : Post) (s : State ν) (ds : List Begun) (L : List Nat) :
    Prop where
  length_le : L.length ≤ s.world.registrations sc.manager post.object
    + ds.countP (Begun.adds sc.manager post.object)
  report_mem : ∀ {i : Nat} {event : Event}, (i, event) ∈ ds.filterMap (Begun.reportIn? sc) →
    event.reportedPost? = some post → i ∈ L

/-- As long as the frames of a dispatch are in place, reports about a post are made for handlers of
registrations that were there when the dispatch began or have been made since. -/
theorem During.exists_covers (ht : During app s t) (hs : Reachable app s)
    (hcontrol : s.control.handlers = []) (sc : Scope) (post : Post) :
    ∃ ds, t.dispatches = s.dispatches ++ ds ∧ ∃ L, Covers sc post s ds L := by
  have hstep {t t' : State ν} {K K' : List (Frame ν)} (hd : During app s t)
      (hd' : During app s t') (hK : t.stack = K ++ s.stack) (hK' : t'.stack = K' ++ s.stack)
      (hmove : Move app t t')
      (h : ∃ ds, t.dispatches = s.dispatches ++ ds ∧ ∃ L, Covers sc post s ds L ∧
        Traced sc.manager post L K t) :
      ∃ ds, t'.dispatches = s.dispatches ++ ds ∧ ∃ L, Covers sc post s ds L ∧
        Traced sc.manager post L K' t' := by
    obtain ⟨ds, hds, L, ⟨hL, hreports⟩, htraced⟩ := h
    obtain ⟨L', hsubset, hL', htraced'⟩ := hmove.traced htraced (hd.reachable hs).sound
      (hd'.reachable hs).sound hK hK'
    refine ⟨ds ++ t'.control.begun?.toList, ?_, L', ⟨?_, ?_⟩, htraced'⟩
    · rw [hmove.dispatches, hds, List.append_assoc]
    · rw [List.countP_append]
      omega
    · intro i event hx hpost
      rw [List.filterMap_append] at hx
      rcases List.mem_append.1 hx with hold | hnew
      · exact hsubset (hreports hold hpost)
      · obtain ⟨d, hd, hreport⟩ := List.mem_filterMap.1 hnew
        obtain ⟨b, hb, rfl, hb'⟩ := hmove.report_cases (Option.mem_toList.1 hd) hreport
        refine hsubset (htraced.pending (List.mem_append_left _ hb) ?_)
        exact Option.some.inj (hb'.symm.trans hpost)
  obtain ⟨L, hL, htraced⟩ := EventDispatch.exists_traced hs.sound hcontrol sc.manager post
  obtain ⟨-, -, ds, hds, L, hcovers, -⟩ := ht.induction
    ⟨[], (List.append_nil _).symm, L, ⟨hL, nofun⟩, htraced⟩ hstep
  exact ⟨ds, hds, L, hcovers⟩

/-- The failed attempts of a scope on the way from `s` to `t`, in the order in which they ended. -/
def State.failuresIn (sc : Scope) (s t : State ν) : List FailedAttempt :=
  Booking.attempts ((s.since t).filterMap (Entry.booking? sc))

theorem OutermostFire.attempts_eq (hs : Reachable app s) {sc : Scope} {event : Event}
    (hfire : OutermostFire s sc event) (ht : During app s t) {bs : List Booking}
    (hbs : t.bookings sc = s.bookings sc ++ bs) : Booking.attempts bs = s.failuresIn sc t := by
  rw [hfire.bookings_eq hs, State.bookings, State.read_since _ ht.history_grows, List.append_assoc]
    at hbs
  rw [← List.append_cancel_left hbs, Booking.attempts_append, State.failuresIn]
  -- A control is about to book nothing but a report.
  have hcontrol : Booking.attempts (t.control.booking? sc).toList = [] := by
    cases hcontrol : t.control with
    | dispatch scope origin e =>
      cases origin with
      | report i => by_cases hscope : scope = sc <;>
          simp [Control.booking?, hscope, Booking.attempts, Booking.attempt?]
      | _ => rfl
    | _ => rfl
  rw [hcontrol, List.append_nil]

/-- Reports about a post are counted among the reports of the scope. -/
theorem countP_reportsOn (sc : Scope) (post : Post) (ds : List Begun) :
    ds.countP (Begun.reportsOn sc post)
      = (ds.filterMap (Begun.reportIn? sc)).countP (fun x => x.2.reportedPost? = some post) := by
  rw [List.countP_filterMap]
  apply List.countP_congr
  rintro ⟨scope, origin, event⟩ -
  cases origin with
  | report i =>
    by_cases hscope : scope = sc <;>
      simp [Begun.reportsOn, Begun.isReport, Begun.reportIn?, hscope]
  | _ => simp [Begun.reportsOn, Begun.isReport, Begun.reportIn?]

/-- Reports that are made for different handlers, all of them in a list, are no more than the list
is long. -/
theorem countP_le_of_covered {reports : List (Nat × Event)} {post : Post} {L : List Nat}
    (hnodup : (reports.map Prod.fst).Nodup)
    (hcovered : ∀ {i : Nat} {event : Event}, (i, event) ∈ reports →
      event.reportedPost? = some post → i ∈ L) :
    reports.countP (fun x => x.2.reportedPost? = some post) ≤ L.length := by
  rw [List.countP_eq_length_filter, ← List.length_map Prod.fst]
  apply List.Nodup.length_le_of_subset
  · exact hnodup.sublist (List.filter_sublist.map Prod.fst)
  · intro i hi
    obtain ⟨⟨j, event⟩, hx, rfl⟩ := List.mem_map.1 hi
    obtain ⟨hmem, hpost⟩ := List.mem_filter.1 hx
    exact hcovered hmem (of_decide_eq_true hpost)

/-- Within an outermost fire a post is reported exactly once for each of its handlers whose first
failure calls for a report, and at most once for each registration of its object: the one that is
there when the fire begins, if there is one, and those that are made in the fire. -/
theorem Reachable.reports_per_registration (hs : Reachable app s) {sc : Scope} {event : Event}
    (hfire : OutermostFire s sc event) (ht : During app s t) (post : Post) :
    ∃ ds, t.dispatches = s.dispatches ++ ds ∧
      ds.countP (Begun.reportsOn sc post)
        = ((FailedAttempt.firsts (s.failuresIn sc t)).filter (·.handler.post = post)).countP
            (·.isReportable app sc.manager) ∧
      ds.countP (Begun.reportsOn sc post) ≤ s.world.registrations sc.manager post.object
        + ds.countP (Begun.adds sc.manager post.object) := by
  obtain ⟨origin, hcontrol⟩ := hfire.control
  obtain ⟨ds, hds, L, hcovers⟩ := ht.exists_covers hs (by rw [hcontrol]; rfl) sc post
  obtain ⟨K, -, bs, hbs, hrun⟩ := hfire.run hs ht
  have hreports := State.reports_since hds hbs
  refine ⟨ds, hds, ?_, ?_⟩
  · rw [countP_reportsOn, ← hreports, hrun.prompt.reports_eq, hfire.attempts_eq hs ht hbs,
      List.countP_map, List.countP_filter, List.countP_filter]
    apply List.countP_congr
    intro a _
    simp [and_comm]
  · have hnodup : ((Ledger.reports bs).map Prod.fst).Nodup := by
      rw [← Ledger.reported_eq]
      exact hrun.frugal.nodup.sublist hrun.frugal.sublist
    rw [hreports] at hnodup
    rw [countP_reportsOn]
    exact Nat.le_trans (countP_le_of_covered hnodup hcovers.report_mem) hcovers.length_le

end Fire

/-- A worker that always fails, and a supervisor that on the first failure removes the worker, adds
it again and has the event fired again. -/
def restart : Script.Cast where
  hierarchy := ⟨fun _ => none⟩
  names := ⟨fun _ => "Event", fun _ => .labelled "Event"⟩
  managers := [{}]
  roles := [
    some ⟨"Worker", false, [⟨⟨.invoke, .custom 0, "work"⟩, false,
      [⟨.fail ⟨"broken", []⟩, 0, none, none⟩]⟩]⟩,
    some ⟨"Supervisor", false, [⟨⟨.invoke, .observerFailed, "restart"⟩, false,
      [⟨.act ⟨.remove 0, 0, .direct⟩ false, 0, some 1, none⟩,
        ⟨.act ⟨.add 0, 0, .direct⟩ false, 0, some 1, none⟩,
        ⟨.act ⟨.fire (.plain 0 "") .typed, 0, .direct⟩ false, 0, some 1, none⟩]⟩]⟩]

/-- The state in which the event of a fire is about to be dispatched to them. -/
def restartState : State Script.Note :=
  (State.start (World.after restart.application 20 {} [{ operation := .add 0 },
    { operation := .add 1 }]) { operation := .fire (.plain 0 "") }).steps restart.application 2

/-- The worker is there when the fire begins and is added once in it. Both of its handlers fail, so
its post is reported twice. -/
theorem restarted_worker_reported_twice :
    Reachable restart.application restartState ∧
      OutermostFire restartState ⟨0, 0⟩ (.plain 0 "") ∧
      During restart.application restartState (restartState.steps restart.application 57) ∧
      ∃ ds, (restartState.steps restart.application 57).dispatches = restartState.dispatches ++ ds ∧
        ds.countP (Begun.reportsOn ⟨0, 0⟩ ⟨0, .invoke, .custom 0⟩) = 2 ∧
        2 ≤ restartState.world.registrations 0 0 + ds.countP (Begun.adds 0 0) := by
  have hs : Reachable restart.application restartState :=
    (Reachable.after _ (fun _ => .start _) (by decide +kernel)).steps 2
  have hfire : OutermostFire restartState ⟨0, 0⟩ (.plain 0 "") :=
    ⟨⟨.request, rfl⟩, ⟨true, _, [], rfl, rfl⟩⟩
  have ht : During restart.application restartState (restartState.steps restart.application 57) :=
    .of_steps (by decide +kernel)
  obtain ⟨ds, hds, hexact, hle⟩ := hs.reports_per_registration hfire ht ⟨0, .invoke, .custom 0⟩
  have htwo : ds.countP (Begun.reportsOn ⟨0, 0⟩ ⟨0, .invoke, .custom 0⟩) = 2 :=
    hexact.trans (by decide +kernel)
  rw [htwo] at hle
  exact ⟨hs, hfire, ht, ds, hds, htwo, hle⟩

/-- An object is not reported at most once for a phase and a type in an outermost fire that ends. -/
theorem not_reported_at_most_once :
    ¬ ∀ (app : Application Script.Note) (s t : State Script.Note) (sc : Scope) (event : Event),
      Reachable app s → OutermostFire s sc event → EndsAt app s t →
      ∀ (post : Post) (ds : List Begun), t.dispatches = s.dispatches ++ ds →
        ds.countP (Begun.reportsOn sc post) ≤ 1 := by
  intro h
  have hs : Reachable restart.application restartState :=
    (Reachable.after _ (fun _ => .start _) (by decide +kernel)).steps 2
  have hends : EndsAt restart.application restartState
      (restartState.steps restart.application 57) :=
    .of_steps (by decide +kernel) (by decide +kernel)
  have hle := h restart.application restartState (restartState.steps restart.application 57) ⟨0, 0⟩
    (.plain 0 "") hs ⟨⟨.request, rfl⟩, ⟨true, _, [], rfl, rfl⟩⟩ hends ⟨0, .invoke, .custom 0⟩
    ((restartState.steps restart.application 57).dispatches.drop restartState.dispatches.length)
    (by decide +kernel)
  exact absurd hle (by decide +kernel)

end EventDispatch
