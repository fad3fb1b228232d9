import Mathlib.Data.List.Induction
import EventDispatch.Proofs.Delivery.Course
import EventDispatch.Proofs.Failure.Containment
import EventDispatch.Proofs.Failure.Registrations
import EventDispatch.Proofs.Failure.ReportLoop

/-!
# Undisturbed fires

A fire is undisturbed if no handler asks for an operation while it lasts. All that is dispatched in
it besides its own event are reports, so a handler fails either on the event of the fire or on a
report. The guard makes no difference between the two: a handler of the plan that fails on the event
is reported exactly once if that is its first failure in the fire, and not at all if it has failed
before on the report about another one (`Reachable.reports_of_undisturbed_fire`).
-/

set_option autoImplicit false

namespace EventDispatch

variable {ν : Type} {app : Application ν}

/-! ## First failures -/

namespace FailedAttempt

variable {as : List FailedAttempt}

theorem nodup_firsts (as : List FailedAttempt) : ((firsts as).map (·.handler.id)).Nodup := by
  induction as using List.reverseRecOn with
  | nil => exact List.nodup_nil
  | append_singleton as a ih =>
    rw [firsts_append, enter]
    split
    · exact ih
    · rename_i hnew
      rw [List.map_append, List.nodup_append]
      refine ⟨ih, List.nodup_singleton _, ?_⟩
      intro i hi j hj heq
      have hi' : i = a.handler.id := heq.trans (List.mem_singleton.1 hj)
      exact hnew (hi' ▸ hi)

/-- A search for a handler finds the same among the first failures as among all. -/
theorem find?_firsts (as : List FailedAttempt) (i : Nat) :
    (firsts as).find? (·.handler.id = i) = as.find? (·.handler.id = i) := by
  induction as using List.reverseRecOn with
  | nil => rfl
  | append_singleton as a ih =>
    rw [firsts_append, enter, List.find?_append, ← ih]
    split
    · rename_i hold
      by_cases hi : a.handler.id = i
      · -- The handler has been found before.
        obtain ⟨first, hfirst, hid⟩ := List.mem_map.1 hold
        have hfound : ((firsts as).find? (·.handler.id = i)).isSome = true :=
          List.find?_isSome.2 ⟨first, hfirst, decide_eq_true (hid.trans hi)⟩
        rw [Option.or_of_isSome hfound]
      · simp [hi]
    · rw [List.find?_append]

theorem mem_firsts_iff {a : FailedAttempt} :
    a ∈ firsts as ↔ as.find? (·.handler.id = a.handler.id) = some a := by
  rw [← find?_firsts]
  constructor
  · intro ha
    have hfound : ((firsts as).find? (·.handler.id = a.handler.id)).isSome = true :=
      List.find?_isSome.2 ⟨a, ha, decide_eq_true rfl⟩
    obtain ⟨first, hfirst⟩ := Option.isSome_iff_exists.1 hfound
    have hid : first.handler.id = a.handler.id := by simpa using List.find?_some hfirst
    rw [hfirst,
      List.inj_on_of_nodup_map (nodup_firsts as) (List.mem_of_find?_eq_some hfirst) ha hid]
  · exact List.mem_of_find?_eq_some

/-- The first failures that call for a report. -/
def due (app : Application ν) (m : ManagerId) (as : List FailedAttempt) : List FailedAttempt :=
  (firsts as).filter (·.isReportable app m)

theorem mem_of_mem_firsts {a : FailedAttempt} (h : a ∈ firsts as) : a ∈ as :=
  List.mem_of_find?_eq_some (mem_firsts_iff.1 h)

/-- The first failure of a handler is there if there is any. -/
theorem exists_mem_firsts {a : FailedAttempt} (ha : a ∈ as) :
    ∃ first ∈ firsts as, first.handler.id = a.handler.id := by
  have hfound : (as.find? (·.handler.id = a.handler.id)).isSome = true :=
    List.find?_isSome.2 ⟨a, ha, decide_eq_true rfl⟩
  rw [← find?_firsts] at hfound
  obtain ⟨first, hfirst⟩ := Option.isSome_iff_exists.1 hfound
  exact ⟨first, List.mem_of_find?_eq_some hfirst, by simpa using List.find?_some hfirst⟩

/-- Whether a handler has failed on an event with an error or a panic. -/
def failsOn (event : Event) (as : List FailedAttempt) (b : BoundHandler) : Bool :=
  as.any fun a => a.handler = b && a.event = event && !a.failure.isMechanical

/-- Whether a handler has failed on another event first. -/
def failsBefore (event : Event) (as : List FailedAttempt) (b : BoundHandler) : Bool :=
  (as.find? (·.handler.id = b.id)).any (·.event ≠ event)

end FailedAttempt

/-- Whether an event reports that a handler has failed on an event. -/
def Event.carries (report : Event) (b : BoundHandler) (event : Event) : Bool :=
  match report with
  | .observerFailed observer handler cause _ =>
    observer = b.observer && handler = b.descriptor && cause = event
  | _ => false

/-! ## Failures in a fire -/

/-- The failed attempt of a scope that an entry is about. -/
def Entry.failedAttempt? (sc : Scope) (entry : Entry ν) : Option FailedAttempt :=
  (entry.booking? sc).bind Booking.attempt?

section Failures

variable {s t : State ν} {sc : Scope}

theorem State.failuresIn_eq (sc : Scope) (s t : State ν) :
    s.failuresIn sc t = (s.since t).filterMap (Entry.failedAttempt? sc) := by
  rw [failuresIn, Booking.attempts, List.filterMap_filterMap]
  rfl

theorem Entry.failedAttempt?_eq_some {entry : Entry ν} {a : FailedAttempt} :
    entry.failedAttempt? sc = some a ↔
      ∃ d, entry = ⟨sc, .failed d a.handler a.failure⟩ ∧ d.event = a.event := by
  obtain ⟨scope, fact⟩ := entry
  rw [failedAttempt?, booking?]
  by_cases hscope : scope = sc
  · subst hscope
    rw [if_pos rfl]
    cases fact with
    | failed d b failure =>
      simp only [Fact.booking?, Booking.attempt?, Option.bind_some, Option.some.injEq]
      constructor
      · rintro rfl
        exact ⟨d, rfl, rfl⟩
      · rintro ⟨d', heq, hevent⟩
        cases heq
        rw [hevent]
    | dispatched origin => cases origin <;> simp [Fact.booking?, Booking.attempt?]
    | _ => simp [Fact.booking?, Booking.attempt?]
  · rw [if_neg hscope]
    simp [hscope]

theorem State.mem_failuresIn {a : FailedAttempt} : a ∈ s.failuresIn sc t ↔
    ∃ d, ⟨sc, .failed d a.handler a.failure⟩ ∈ s.since t ∧ d.event = a.event := by
  rw [failuresIn_eq, List.mem_filterMap]
  constructor
  · rintro ⟨entry, hentry, ha⟩
    obtain ⟨d, rfl, hevent⟩ := Entry.failedAttempt?_eq_some.1 ha
    exact ⟨d, hentry, hevent⟩
  · rintro ⟨d, hentry, hevent⟩
    exact ⟨_, hentry, Entry.failedAttempt?_eq_some.2 ⟨d, rfl, hevent⟩⟩

theorem State.knows_of_mem_failuresIn {a : FailedAttempt} (ha : a ∈ s.failuresIn sc t) :
    t.Knows sc.manager a.handler := by
  obtain ⟨d, hentry, -⟩ := State.mem_failuresIn.1 ha
  right
  apply List.mem_append_right
  exact List.mem_filterMap.2 ⟨_, List.mem_of_mem_drop hentry, rfl⟩

/-- A handler that has failed is known, so it is told apart from others by its number. -/
theorem Reachable.eq_of_mem_failuresIn (ht : Reachable app t) {a a' : FailedAttempt}
    (ha : a ∈ s.failuresIn sc t) (ha' : a' ∈ s.failuresIn sc t)
    (hid : a.handler.id = a'.handler.id) : a.handler = a'.handler :=
  (ht.identified.unique (State.knows_of_mem_failuresIn ha) (State.knows_of_mem_failuresIn ha')
    hid).2

end Failures

/-! ## Undisturbed fires -/

/-- Whether a handler is about to ask for an operation. -/
def State.callsBack (s : State ν) : Bool :=
  match s.control with
  | .run _ (.perform ..) => true
  | _ => false

/-- Whether an operation has been asked for and is about to be carried out. -/
def Control.isAsked : Control ν → Bool
  | .issue .. | .perform .. => true
  | _ => false

/-- If nobody asks for an operation, nothing but reports comes up for dispatch. -/
theorem Move.isReport_of_calm {s t : State ν} (h : Move app s t) (hcalm : s.callsBack = false)
    (hasked : s.control.isAsked = false) :
    t.control.isAsked = false ∧ ∀ d, t.control.begun? = some d → d.isReport = true := by
  cases h with
  | call => exact absurd hcalm (by simp [State.callsBack])
  | direct | caught | spawned => exact absurd hasked (by simp [Control.isAsked])
  | query | kept | joined | parted | fire => exact absurd hasked (by simp [Control.isAsked])
  | report =>
    refine ⟨rfl, ?_⟩
    intro d hd
    cases hd
    rfl
  | rest w control K hended =>
    refine ⟨hasked, ?_⟩
    intro d hd
    rw [begun?_eq_none_of_isOutcome hended] at hd
    cases hd
  | _ =>
    refine ⟨rfl, ?_⟩
    intro d hd
    cases hd

theorem State.restrained_of_calm {s : State ν} (hcalm : s.callsBack = false) (sc : Scope) :
    s.restrained app sc = true := by
  unfold restrained
  split
  · rename_i hcontrol _
    rw [callsBack, hcontrol] at hcalm
    cases hcalm
  · rfl

namespace OutermostFire

section Undisturbed

variable {s t : State ν} {sc : Scope} {event : Event} (hs : Reachable app s)
  (h : OutermostFire s sc event) (hcalm : ∀ u, During app s u → u.callsBack = false)

include hs h hcalm

/-- All that is dispatched in the fire besides its event are reports. -/
theorem exists_reports (ht : During app s t) :
    ∃ ds, t.dispatches = s.dispatches ++ ds ∧
      ∀ d ∈ ds, d.isReport = true ∧ d.scope = sc ∧ d.event.type = .observerFailed := by
  obtain ⟨ds, hds, hrestrained⟩ := h.dispatches_restrained hs
    (fun u hu => State.restrained_of_calm (hcalm u hu) sc) ht
  have hstart : s.control.isAsked = false := by
    obtain ⟨origin, hcontrol⟩ := h.control
    rw [hcontrol]
    rfl
  obtain ⟨-, -, -, ds', hds', hreports⟩ := ht.induction
    (P := fun _ t => t.control.isAsked = false ∧
      ∃ ds, t.dispatches = s.dispatches ++ ds ∧ ∀ d ∈ ds, d.isReport = true)
    ⟨hstart, [], (List.append_nil _).symm, by simp⟩ (by
      rintro t t' K K' hd - - - hmove ⟨hasked, ds, hds, hreports⟩
      obtain ⟨hasked', hnew⟩ := hmove.isReport_of_calm (hcalm t hd) hasked
      refine ⟨hasked', ds ++ t'.control.begun?.toList, ?_, ?_⟩
      · rw [hmove.dispatches, hds, List.append_assoc]
      · intro d hmem
        rcases List.mem_append.1 hmem with hold | hlast
        · exact hreports d hold
        · exact hnew d (Option.mem_toList.1 hlast))
  obtain rfl : ds = ds' := List.append_cancel_left (hds.symm.trans hds')
  refine ⟨ds, hds, ?_⟩
  intro d hd
  exact ⟨hreports d hd, (hrestrained d hd).scope_eq, (hrestrained d hd).report (hreports d hd)⟩

/-- What is entered about attempts in the fire is about its own dispatch or about a report. -/
theorem about_cases (ht : During app s t) {e : Entry ν} (he : e ∈ s.since t) {d : Delivery}
    (hd : e.fact.delivery? = some d) :
    e.scope = sc ∧ d = ⟨s.world.nextDispatch, event⟩ ∨
      s.world.nextDispatch < d.id ∧ d.event.type = .observerFailed := by
  obtain ⟨origin, hcontrol⟩ := h.control
  obtain ⟨ds, hds, hreports⟩ := h.exists_reports hs hcalm ht
  rcases ht.about hs hcontrol hds he hd with hown | ⟨hlater, x, hx, -, hevent⟩
  · exact .inl hown
  · right
    refine ⟨hlater, ?_⟩
    rw [← hevent]
    exact (hreports x hx).2.2

/-- A handler fails on the event of the fire or on a report. -/
theorem event_cases (ht : During app s t) {a : FailedAttempt} (ha : a ∈ s.failuresIn sc t) :
    a.event = event ∨ a.event.type = .observerFailed := by
  obtain ⟨d, hentry, hevent⟩ := State.mem_failuresIn.1 ha
  rw [← hevent]
  rcases h.about_cases hs hcalm ht hentry rfl with ⟨-, rfl⟩ | ⟨-, hreport⟩
  · exact .inl rfl
  · exact .inr hreport

/-- The handlers that fail on the event of the fire, if that is no report, are those that fail in
its own dispatch, in the same order. -/
theorem handlers_eq (ht : During app s t) (htype : event.type ≠ .observerFailed) :
    ((s.failuresIn sc t).filter (·.event = event)).map (·.handler)
      = (t.course s.world.nextDispatch).filterMap Entry.failed? := by
  have hcourse : t.course s.world.nextDispatch
      = (s.since t).filterMap (Entry.about? s.world.nextDispatch) := by
    have hsince : t.course s.world.nextDispatch = s.course s.world.nextDispatch ++ _ :=
      State.read_since _ ht.history_grows
    rw [hsince, hs.coursed.unbegun (Nat.le_refl _), List.nil_append]
  rw [State.failuresIn_eq, hcourse, ← List.filterMap_eq_filter, List.filterMap_filterMap,
    List.map_filterMap, List.filterMap_filterMap]
  apply List.filterMap_congr
  intro e he
  obtain ⟨scope, fact⟩ := e
  cases fact with
  | failed d b failure =>
    rcases h.about_cases hs hcalm ht he rfl with ⟨hscope, rfl⟩ | ⟨hlater, hreport⟩
    · obtain rfl : scope = sc := hscope
      simp [Entry.failedAttempt?, Entry.booking?, Fact.booking?, Booking.attempt?, Entry.about?,
        Fact.delivery?, Entry.failed?, Option.guard]
    · have hevent : d.event ≠ event := fun heq => htype (heq ▸ hreport)
      have hid : d.id ≠ s.world.nextDispatch := Nat.ne_of_gt hlater
      by_cases hscope : scope = sc <;>
        simp [Entry.failedAttempt?, Entry.booking?, Fact.booking?, Booking.attempt?, Entry.about?,
          Fact.delivery?, Option.guard, hevent, hid, hscope]
  | dispatched origin d =>
    cases origin <;> by_cases hscope : scope = sc <;>
      simp [Entry.failedAttempt?, Entry.booking?, Fact.booking?, Booking.attempt?, Entry.about?,
        Fact.delivery?, hscope]
  | attempted d | called d | succeeded d | undeliverable d | handlerError d =>
    by_cases hscope : scope = sc <;> by_cases hid : d.id = s.world.nextDispatch <;>
      simp [Entry.failedAttempt?, Entry.booking?, Fact.booking?, Booking.attempt?, Entry.about?,
        Fact.delivery?, Entry.failed?, hscope, hid]
  | _ =>
    by_cases hscope : scope = sc <;>
      simp [Entry.failedAttempt?, Entry.booking?, Fact.booking?, Entry.about?, Fact.delivery?,
        hscope]

/-- The reports of the fire are those of the first failures that call for one. -/
theorem map_event_eq (ht : During app s t) {ds : List Begun}
    (hds : t.dispatches = s.dispatches ++ ds) :
    ds.map (·.event)
      = (FailedAttempt.due app sc.manager (s.failuresIn sc t)).map FailedAttempt.report := by
  obtain ⟨K, -, bs, hbs, hrun⟩ := h.run hs ht
  obtain ⟨ds', hds', hreports⟩ := h.exists_reports hs hcalm ht
  obtain rfl : ds = ds' := List.append_cancel_left (hds.symm.trans hds')
  have hbooked := hrun.prompt.reports_eq
  rw [State.reports_since hds hbs, h.attempts_eq hs ht hbs] at hbooked
  have hevents : ds.map (·.event) = (ds.filterMap (Begun.reportIn? sc)).map Prod.snd := by
    rw [List.map_filterMap, ← List.filterMap_eq_map]
    apply List.filterMap_congr
    intro d hd
    obtain ⟨hreport, hscope, -⟩ := hreports d hd
    obtain ⟨scope, origin, e⟩ := d
    obtain rfl : scope = sc := hscope
    cases origin with
    | report i => simp [Begun.reportIn?]
    | _ => cases hreport
  rw [hevents, hbooked, List.map_map]
  rfl

section Due

variable (hdepth : 0 < app.maxDepth sc.manager) (hevent : app.reports sc.manager event = false)

include hdepth hevent

omit hs h hcalm in
theorem type_ne_of_reports : event.type ≠ .observerFailed := by
  intro htype
  rw [Application.reports_of_type hdepth htype] at hevent
  cases hevent

/-- What calls for a report is a failure on the event of the fire, unless it lies in the event. -/
theorem isReportable_iff (ht : During app s t) {a : FailedAttempt} (ha : a ∈ s.failuresIn sc t) :
    a.isReportable app sc.manager = true ↔ a.event = event ∧ a.failure.isMechanical = false := by
  have hnot : app.reports sc.manager a.event = false ↔ a.event = event := by
    constructor
    · intro hother
      rcases h.event_cases hs hcalm ht ha with hown | htype
      · exact hown
      · rw [Application.reports_of_type hdepth htype] at hother
        cases hother
    · rintro rfl
      exact hevent
  rw [FailedAttempt.isReportable, Bool.and_eq_true, Bool.not_eq_true', Bool.not_eq_true', ← hnot,
    and_comm]

/-- The handlers that fail on the event of the fire are handlers of its plan, in the order of the
plan. -/
theorem handlers_sublist (ht : During app s t) :
    (((s.failuresIn sc t).filter (·.event = event)).map (·.handler)).Sublist
      (s.world.resolve app sc event.type).1.toList := by
  obtain ⟨origin, hcontrol⟩ := h.control
  have hattempted := (hs.attemptsOf_prefix hcontrol ht).sublist.map (·.handler)
  rw [List.map_map, State.map_handler_attemptsOf] at hattempted
  rw [h.handlers_eq hs hcalm ht (type_ne_of_reports hdepth hevent)]
  refine ((ht.reachable hs).failed_sublist _).trans (hattempted.trans ?_)
  exact (List.map_id _).symm ▸ .refl _

/-- The handlers that are reported are those that fail on the event of the fire and have not failed
before. -/
theorem mem_due_iff (ht : During app s t) {b : BoundHandler} :
    b ∈ (FailedAttempt.due app sc.manager (s.failuresIn sc t)).map (·.handler) ↔
      FailedAttempt.failsOn event (s.failuresIn sc t) b = true ∧
        FailedAttempt.failsBefore event (s.failuresIn sc t) b = false := by
  constructor
  · intro hb
    obtain ⟨a, ha, rfl⟩ := List.mem_map.1 hb
    obtain ⟨hfirst, hreportable⟩ := List.mem_filter.1 ha
    have hmem := FailedAttempt.mem_of_mem_firsts hfirst
    obtain ⟨hown, hmechanical⟩ :=
      (h.isReportable_iff hs hcalm hdepth hevent ht hmem).1 hreportable
    constructor
    · exact List.any_eq_true.2 ⟨a, hmem, by simp [hown, hmechanical]⟩
    · simp [FailedAttempt.failsBefore, FailedAttempt.mem_firsts_iff.1 hfirst, hown]
  · rintro ⟨hfails, hbefore⟩
    obtain ⟨a, ha, hthis⟩ := List.any_eq_true.1 hfails
    simp only [Bool.and_eq_true, decide_eq_true_eq, Bool.not_eq_true'] at hthis
    obtain ⟨⟨rfl, hown⟩, hmechanical⟩ := hthis
    have hsome : ((s.failuresIn sc t).find? (·.handler.id = a.handler.id)).isSome = true :=
      List.find?_isSome.2 ⟨a, ha, decide_eq_true rfl⟩
    obtain ⟨first, hfound⟩ := Option.isSome_iff_exists.1 hsome
    have hmem := List.mem_of_find?_eq_some hfound
    have hid : first.handler.id = a.handler.id := by simpa using List.find?_some hfound
    have hfirstOwn : first.event = event := by
      simpa [FailedAttempt.failsBefore, hfound] using hbefore
    -- The plan has the handler once, so its first failure is the one on the event of the fire.
    have hnodup := (hs.sound.nodup_resolve sc event).sublist
      (h.handlers_sublist hs hcalm hdepth hevent ht)
    obtain rfl : first = a := List.inj_on_of_nodup_map hnodup
      (List.mem_filter.2 ⟨hmem, decide_eq_true hfirstOwn⟩)
      (List.mem_filter.2 ⟨ha, decide_eq_true hown⟩)
      ((ht.reachable hs).eq_of_mem_failuresIn hmem ha hid)
    have hreportable := (h.isReportable_iff hs hcalm hdepth hevent ht ha).2 ⟨hown, hmechanical⟩
    exact List.mem_map.2
      ⟨first, List.mem_filter.2 ⟨FailedAttempt.mem_firsts_iff.2 hfound, hreportable⟩, rfl⟩

/-- The failures that are reported are failures on the event of the fire by handlers of its plan. -/
theorem of_mem_due (ht : During app s t) {a : FailedAttempt}
    (ha : a ∈ FailedAttempt.due app sc.manager (s.failuresIn sc t)) :
    a ∈ s.failuresIn sc t ∧ a.event = event ∧
      a.handler ∈ (s.world.resolve app sc event.type).1.toList := by
  obtain ⟨hfirst, hreportable⟩ := List.mem_filter.1 ha
  have hmem := FailedAttempt.mem_of_mem_firsts hfirst
  have hown := ((h.isReportable_iff hs hcalm hdepth hevent ht hmem).1 hreportable).1
  refine ⟨hmem, hown, (h.handlers_sublist hs hcalm hdepth hevent ht).subset ?_⟩
  exact List.mem_map.2 ⟨a, List.mem_filter.2 ⟨hmem, decide_eq_true hown⟩, rfl⟩

omit hs h hcalm hdepth hevent in
theorem nodup_due (as : List FailedAttempt) :
    ((FailedAttempt.due app sc.manager as).map (·.handler)).Nodup := by
  have hids : (((FailedAttempt.firsts as).map (·.handler)).map (·.id)).Nodup := by
    rw [List.map_map]
    exact FailedAttempt.nodup_firsts as
  exact hids.of_map.sublist (List.filter_sublist.map _)

/-- A report about a handler of the plan is made for this handler. -/
theorem report_carries_iff (ht : During app s t) {a : FailedAttempt}
    (ha : a ∈ FailedAttempt.due app sc.manager (s.failuresIn sc t)) {b : BoundHandler}
    (hb : b ∈ (s.world.resolve app sc event.type).1.toList) :
    a.report.carries b event = true ↔ a.handler = b := by
  obtain ⟨-, hown, ha⟩ := h.of_mem_due hs hcalm hdepth hevent ht ha
  constructor
  · intro hcarries
    simp only [FailedAttempt.report, Event.carries, Bool.and_eq_true, decide_eq_true_eq]
      at hcarries
    obtain ⟨⟨hobserver, hdescriptor⟩, -⟩ := hcarries
    have hplan {b : BoundHandler} (hb : b ∈ (s.world.resolve app sc event.type).1.toList) :
        s.world.HasHandler sc.manager b := by
      rw [hs.sound.resolve_eq] at hb
      exact ManagerState.mem_of_mem_currentPlan hb
    apply hs.sound.eq_of_post (hplan ha) (hplan hb)
    simp only [BoundHandler.post, BoundHandler.eventType, hobserver, hdescriptor]
  · rintro rfl
    simp [FailedAttempt.report, Event.carries, hown]

/-- A handler of the plan is reported once if it fails on the event of the fire and has not failed
before, and not at all otherwise. -/
theorem countP_carries (ht : During app s t) {ds : List Begun}
    (hds : t.dispatches = s.dispatches ++ ds) {b : BoundHandler}
    (hb : b ∈ (s.world.resolve app sc event.type).1.toList) :
    ds.countP (·.event.carries b event)
      = if FailedAttempt.failsOn event (s.failuresIn sc t) b
          && !FailedAttempt.failsBefore event (s.failuresIn sc t) b then 1 else 0 := by
  have hcount : ds.countP (·.event.carries b event)
      = ((FailedAttempt.due app sc.manager (s.failuresIn sc t)).map (·.handler)).count b := by
    calc ds.countP (·.event.carries b event)
        = (ds.map (·.event)).countP (·.carries b event) := by
          rw [List.countP_map]
          rfl
      _ = (FailedAttempt.due app sc.manager (s.failuresIn sc t)).countP
            (·.report.carries b event) := by
          rw [h.map_event_eq hs hcalm ht hds, List.countP_map]
          rfl
      _ = (FailedAttempt.due app sc.manager (s.failuresIn sc t)).countP (·.handler = b) := by
          apply List.countP_congr
          intro a ha
          rw [h.report_carries_iff hs hcalm hdepth hevent ht ha hb, decide_eq_true_eq]
      _ = ((FailedAttempt.due app sc.manager (s.failuresIn sc t)).map (·.handler)).count b := by
          rw [List.count, List.countP_map]
          rfl
  rw [hcount, (nodup_due _).count]
  simp [h.mem_due_iff hs hcalm hdepth hevent ht]

/-- There are as many reports as there are handlers that are to be reported. -/
theorem length_eq_countP (ht : During app s t) {ds : List Begun}
    (hds : t.dispatches = s.dispatches ++ ds) :
    ds.length = (s.world.resolve app sc event.type).1.toList.countP fun b =>
      FailedAttempt.failsOn event (s.failuresIn sc t) b
        && !FailedAttempt.failsBefore event (s.failuresIn sc t) b := by
  have hperm : ((FailedAttempt.due app sc.manager (s.failuresIn sc t)).map (·.handler)).Perm
      ((s.world.resolve app sc event.type).1.toList.filter fun b =>
        FailedAttempt.failsOn event (s.failuresIn sc t) b
          && !FailedAttempt.failsBefore event (s.failuresIn sc t) b) := by
    rw [List.perm_ext_iff_of_nodup (nodup_due _) ((hs.sound.nodup_resolve sc event).filter _)]
    intro b
    rw [List.mem_filter, Bool.and_eq_true, Bool.not_eq_true',
      ← h.mem_due_iff hs hcalm hdepth hevent ht]
    constructor
    · intro hb
      obtain ⟨a, ha, rfl⟩ := List.mem_map.1 hb
      exact ⟨(h.of_mem_due hs hcalm hdepth hevent ht ha).2.2, hb⟩
    · exact And.right
  rw [List.countP_eq_length_filter, ← hperm.length_eq, List.length_map,
    ← List.length_map (f := FailedAttempt.report), ← h.map_event_eq hs hcalm ht hds,
    List.length_map]

/-- A handler that has failed before it failed on the event of the fire has done so on the report
about another one. -/
theorem exists_report_of_failsBefore (ht : During app s t) {b : BoundHandler}
    (hbefore : FailedAttempt.failsBefore event (s.failuresIn sc t) b = true)
    (hfails : FailedAttempt.failsOn event (s.failuresIn sc t) b = true) :
    ∃ a ∈ s.failuresIn sc t, ∃ other ∈ FailedAttempt.due app sc.manager (s.failuresIn sc t),
      a.handler = b ∧ a.event = other.report ∧ other.handler ≠ b := by
  obtain ⟨origin, hcontrol⟩ := h.control
  obtain ⟨ds, hds, -⟩ := h.exists_reports hs hcalm ht
  obtain ⟨own, hown, hthis⟩ := List.any_eq_true.1 hfails
  simp only [Bool.and_eq_true, decide_eq_true_eq] at hthis
  obtain ⟨⟨rfl, -⟩, -⟩ := hthis
  obtain ⟨first, hfound, hother⟩ := (Option.any_eq_true _ _).1 hbefore
  have hmem := List.mem_of_find?_eq_some hfound
  have hid : first.handler.id = own.handler.id := by simpa using List.find?_some hfound
  have hhandler := (ht.reachable hs).eq_of_mem_failuresIn hmem hown hid
  obtain ⟨d, hentry, hevent'⟩ := State.mem_failuresIn.1 hmem
  rcases ht.about hs hcontrol hds hentry rfl with ⟨-, rfl⟩ | ⟨-, x, hx, -, hreport⟩
  · exact absurd hevent'.symm (of_decide_eq_true hother)
  · have hx' : x.event ∈ ds.map (·.event) := List.mem_map.2 ⟨x, hx, rfl⟩
    rw [h.map_event_eq hs hcalm ht hds] at hx'
    obtain ⟨other, hdue, hreported⟩ := List.mem_map.1 hx'
    refine ⟨first, hmem, other, hdue, hhandler, ?_, ?_⟩
    · rw [← hevent', ← hreport, hreported]
    · -- The first failure of a handler that is reported is on the event of the fire.
      intro heq
      have hfirst := FailedAttempt.mem_firsts_iff.1 (List.mem_of_mem_filter hdue)
      rw [heq, hfound] at hfirst
      rw [Option.some.inj hfirst] at hother
      exact of_decide_eq_true hother (h.of_mem_due hs hcalm hdepth hevent ht hdue).2.1

end Due

end Undisturbed

end OutermostFire

/-- An outermost fire of an event that is no failure report, at a manager that contains panics and
while no handler asks for an operation, ends and has attempted its whole plan then. Besides its
event it dispatches reports only: one about each handler of the plan that has failed on the event
with an error or a panic, unless the handler has failed before. It can have done so only on the
report about another handler, and then there is none about it. -/
theorem Reachable.reports_of_undisturbed_fire {s : State ν} (hs : Reachable app s) {sc : Scope}
    {event : Event} (hfire : OutermostFire s sc event)
    (hsettings : (app.settings sc.manager).validate = .ok ())
    (hcontain : (app.settings sc.manager).containPanics = true)
    (hevent : app.reports sc.manager event = false)
    (hcalm : ∀ t, During app s t → t.callsBack = false) :
    (∃ t, EndsAt app s t) ∧ ∀ t, EndsAt app s t → ∃ plan ds,
      (s.step app).control = .deliver sc ⟨s.world.nextDispatch, event⟩ plan ∧
      t.attemptsOf s.world.nextDispatch
        = plan.map (Attempt.mk sc ⟨s.world.nextDispatch, event⟩) ∧
      t.dispatches = s.dispatches ++ ds ∧
      (∀ d ∈ ds, d.isReport = true) ∧
      (∀ b ∈ plan, ds.countP (·.event.carries b event)
        = if FailedAttempt.failsOn event (s.failuresIn sc t) b
            && !FailedAttempt.failsBefore event (s.failuresIn sc t) b then 1 else 0) ∧
      ds.length = plan.countP (fun b => FailedAttempt.failsOn event (s.failuresIn sc t) b
        && !FailedAttempt.failsBefore event (s.failuresIn sc t) b) ∧
      ∀ b ∈ plan, FailedAttempt.failsOn event (s.failuresIn sc t) b = true →
        FailedAttempt.failsBefore event (s.failuresIn sc t) b = true →
          ∃ a ∈ s.failuresIn sc t, ∃ other ∈ s.failuresIn sc t,
            a.handler = b ∧ a.event = other.report ∧ other.handler ≠ b ∧ other.event = event := by
  have hdepth := Settings.validate_eq_ok_iff.1 hsettings
  obtain ⟨origin, hcontrol⟩ := hfire.control
  refine ⟨hfire.exists_endsAt hs fun t ht => State.restrained_of_calm (hcalm t ht) sc, ?_⟩
  intro t ht
  have hpanic : ∀ payload, t.control ≠ .unwinding payload := by
    intro payload hunwinding
    rw [hs.completed_of_containPanics hcontrol hcontain ht] at hunwinding
    cases hunwinding
  obtain ⟨ds, hds, hreports⟩ := hfire.exists_reports hs hcalm ht.1
  refine ⟨_, ds, ?_, hs.attemptsOf_eq hcontrol ht hpanic, hds, fun d hd => (hreports d hd).1, ?_,
    hfire.length_eq_countP hs hcalm hdepth hevent ht.1 hds, ?_⟩
  · rw [(s.move_step app).of_dispatch hcontrol]
  · intro b hb
    exact hfire.countP_carries hs hcalm hdepth hevent ht.1 hds hb
  · intro b _ hfails hbefore
    obtain ⟨a, ha, other, hdue, hhandler, hreport, hother⟩ :=
      hfire.exists_report_of_failsBefore hs hcalm hdepth hevent ht.1 hbefore hfails
    obtain ⟨hmem, hown, -⟩ := hfire.of_mem_due hs hcalm hdepth hevent ht.1 hdue
    exact ⟨a, ha, other, hmem, hhandler, hreport, hother, hown⟩

/-- A worker that fails, a monitor that is there for failure reports, and an eavesdropper that
listens to everything and fails whenever it is called again. -/
def eavesdropper : Script.Cast where
  hierarchy := ⟨fun _ => none⟩
  names := ⟨fun _ => "Event", fun _ => .labelled "Event"⟩
  managers := [{}]
  roles := [
    some ⟨"Worker", false, [⟨⟨.invoke, .custom 0, "work"⟩, false,
      [⟨.fail ⟨"broken", []⟩, 0, none, none⟩]⟩]⟩,
    some ⟨"Monitor", false, [⟨⟨.invoke, .observerFailed, "watch"⟩, false, []⟩]⟩,
    some ⟨"Eavesdropper", false, [⟨⟨.invoke, .any, "listen"⟩, false,
      [⟨.fail ⟨"deaf", []⟩, 1, none, none⟩]⟩]⟩]

/-- The state in which the event of a fire is about to be dispatched to them. -/
def eavesdropperState : State Script.Note :=
  (State.start (World.after eavesdropper.application 20 {} [{ operation := .add 0 },
    { operation := .add 1 }, { operation := .add 2 }]) { operation := .fire (.plain 0 "") }).steps
      eavesdropper.application 2

/-- The handlers of the worker and of the eavesdropper, to which the event goes. -/
def eavesdropperPlan : List BoundHandler :=
  (eavesdropperState.world.resolve eavesdropper.application ⟨0, 0⟩ (.custom 0)).1.toList

/-- The fire of the event is an undisturbed one. -/
theorem eavesdropper_never_calls_back :
    Reachable eavesdropper.application eavesdropperState ∧
      OutermostFire eavesdropperState ⟨0, 0⟩ (.plain 0 "") ∧
      EndsAt eavesdropper.application eavesdropperState
        (eavesdropperState.steps eavesdropper.application 28) ∧
      ∀ t, During eavesdropper.application eavesdropperState t → t.callsBack = false := by
  have hends : EndsAt eavesdropper.application eavesdropperState
      (eavesdropperState.steps eavesdropper.application 28) :=
    .of_steps (by decide +kernel) (by decide +kernel)
  have hall : ∀ k ≤ 28, (eavesdropperState.steps eavesdropper.application k).callsBack = false := by
    decide +kernel
  have hs : Reachable eavesdropper.application eavesdropperState :=
    (Reachable.after _ (fun _ => .start _) (by decide +kernel)).steps 2
  have hfire : OutermostFire eavesdropperState ⟨0, 0⟩ (.plain 0 "") :=
    ⟨⟨.request, by rfl⟩, ⟨true, .delivered (.plain 0 ""), [], by rfl, by rfl⟩⟩
  refine ⟨hs, hfire, hends, ?_⟩
  intro t ht
  obtain ⟨k, hk, rfl⟩ := hends.exists_steps ht
  exact hall k hk

/-- The eavesdropper fails on the report about the worker first, so that its failure on the event is
not reported. -/
theorem eavesdropper_not_reported_again :
    eavesdropperPlan.map (·.observer) = [0, 2] ∧
      ∃ ds, (eavesdropperState.steps eavesdropper.application 28).dispatches
          = eavesdropperState.dispatches ++ ds ∧
        ds.length = 1 ∧
        eavesdropperPlan.map (fun b => ds.countP (·.event.carries b (.plain 0 ""))) = [1, 0] := by
  obtain ⟨hs, hfire, hends, hcalm⟩ := eavesdropper_never_calls_back
  obtain ⟨-, hreports⟩ := hs.reports_of_undisturbed_fire hfire rfl rfl (by decide +kernel) hcalm
  obtain ⟨plan, ds, hplan, -, hds, -, hcount, hlength, -⟩ := hreports _ hends
  obtain ⟨origin, hcontrol⟩ := hfire.control
  rw [(State.move_step _ _).of_dispatch hcontrol] at hplan
  obtain rfl : eavesdropperPlan = plan := (Control.deliver.inj hplan).2.2
  refine ⟨by decide +kernel, ds, hds, hlength.trans (by decide +kernel), ?_⟩
  rw [List.map_congr_left hcount]
  decide +kernel

/-- In an undisturbed fire a handler that fails on the event is not reported exactly once. -/
theorem not_reported_exactly_once :
    ¬ ∀ (app : Application Script.Note) (s t : State Script.Note) (sc : Scope) (event : Event)
      (plan : List BoundHandler) (ds : List Begun), Reachable app s → OutermostFire s sc event →
      (app.settings sc.manager).validate = .ok () →
      (app.settings sc.manager).containPanics = true → app.reports sc.manager event = false →
      (∀ t, During app s t → t.callsBack = false) → EndsAt app s t →
      (s.step app).control = .deliver sc ⟨s.world.nextDispatch, event⟩ plan →
      t.dispatches = s.dispatches ++ ds →
      ∀ b ∈ plan, FailedAttempt.failsOn event (s.failuresIn sc t) b = true →
        ds.countP (·.event.carries b event) = 1 := by
  intro h
  obtain ⟨hs, hfire, hends, hcalm⟩ := eavesdropper_never_calls_back
  have hone := h eavesdropper.application eavesdropperState
    (eavesdropperState.steps eavesdropper.application 28) ⟨0, 0⟩ (.plain 0 "") eavesdropperPlan
    ((eavesdropperState.steps eavesdropper.application 28).dispatches.drop
      eavesdropperState.dispatches.length) hs hfire rfl rfl (by decide +kernel) hcalm hends rfl
    (by decide +kernel)
  exact absurd hone (by decide +kernel)

end EventDispatch
