import EventDispatch.Proofs.Delivery.Course
import EventDispatch.Proofs.Failure.GuardLifetime
import EventDispatch.Proofs.Registry.Membership

/-!
# Aborted dispatches

A panic that leaves a dispatch leaves it in the middle of its plan: it comes out of the call of a
handler, or out of the dispatch of the report about a handler's error, and either way that handler
is the last that has been attempted, and nothing is logged about it. What the panic leaves behind is
in order: no change of a registry is taken back, the cached plans are those of the registry, and the
next fire begins as it would anywhere else (`Reachable.aborted_dispatch`).
-/

set_option autoImplicit false

namespace EventDispatch

variable {ν : Type} {app : Application ν}

/-! ## What waits for a panic -/

/-- What has ended puts no frame on the stack. -/
theorem Move.isOutcome_eq_false_of_push {s t : State ν} (h : Move app s t) {frame : Frame ν}
    (hpush : t.stack = frame :: s.stack) : s.control.isOutcome = false := by
  apply Bool.eq_false_iff.2
  intro houtcome
  have hlength := congrArg List.length hpush
  rcases h.pops_of_outcome houtcome with rfl | ⟨top, hpop⟩
  · exact absurd hpush.symm (List.cons_ne_self _ _)
  · rw [hpop, List.length_cons, List.length_cons] at hlength
    omega

/-- The step that puts the frame of an attempt on the stack calls the handler. -/
theorem Move.of_push_attempt {s t : State ν} (h : Move app s t) {scope : Scope} {d : Delivery}
    {b : BoundHandler} {rest : List BoundHandler}
    (hpush : t.stack = .attempt scope d b rest :: s.stack) :
    s.control = .deliver scope d (b :: rest) ∧
      ∃ part, t.control = .run scope (app.program scope.manager b.observer b.binding part) := by
  have hcontrol := h.isOutcome_eq_false_of_push hpush
  cases h with
  | attempt w scope d b rest part =>
    cases hpush
    exact ⟨rfl, part, rfl⟩
  | call | caught | spawned | joined | parted | fire | report => cases hpush
  | finish | panic | note | «recall» | direct | query | kept | stall | stuck | dispatch | complete
      | mismatch | silent | undeliverable | unreported =>
    exact absurd hpush.symm (List.cons_ne_self _ _)
  | rest w control K hended =>
    rw [hended] at hcontrol
    cases hcontrol
  | _ => cases hcontrol

/-- The step that puts the frame of a report on the stack begins the dispatch of the report. -/
theorem Move.of_push_reporting {s t : State ν} (h : Move app s t) {scope : Scope} {d : Delivery}
    {b : BoundHandler} {failure : Failure} {rest : List BoundHandler}
    (hpush : t.stack = .reporting scope d b failure rest :: s.stack) :
    s.control = .fail scope d b failure rest ∧
      t.control = .dispatch scope (.report b.id)
        (.observerFailed b.observer b.descriptor d.event failure) := by
  have hcontrol := h.isOutcome_eq_false_of_push hpush
  cases h with
  | report =>
    cases hpush
    exact ⟨rfl, rfl⟩
  | call | caught | spawned | joined | parted | fire | attempt => cases hpush
  | finish | panic | note | «recall» | direct | query | kept | stall | stuck | dispatch | complete
      | mismatch | silent | undeliverable | unreported =>
    exact absurd hpush.symm (List.cons_ne_self _ _)
  | rest w control K hended =>
    rw [hended] at hcontrol
    cases hcontrol
  | _ => cases hcontrol

/-- How a panic gets out of a delivery in the step that leads to `t`: it comes out of the call of
the handler `b`, or out of the dispatch of the report about an error that `b` has returned. -/
inductive State.AbortedBy (app : Application ν) (s t : State ν) (scope : Scope) (d : Delivery)
    (b : BoundHandler) (rest : List BoundHandler) (payload : Payload) : Prop
  | called (r u : State ν) (part : Event) (hr : During app s r)
      (hdeliver : r.control = .deliver scope d (b :: rest))
      (hrun : (r.step app).control
        = .run scope (app.program scope.manager b.observer b.binding part))
      (hu : EndsAt app (r.step app) u) (hpanic : u.control = .unwinding payload)
      (ht : u.step app = t)
  | reported (r u : State ν) (e : ErrorChain) (hr : During app s r)
      (hfail : r.control = .fail scope d b (.returned e) rest)
      (hdispatch : (r.step app).control = .dispatch scope (.report b.id)
        (.observerFailed b.observer b.descriptor d.event (.returned e)))
      (hu : EndsAt app (r.step app) u) (hpanic : u.control = .unwinding payload)
      (ht : u.step app = t)

section Abort

variable {s t : State ν} {sc : Scope} {origin : Origin} {event : Event} {payload : Payload}

/-- A panic leaves a dispatch only of a manager that lets panics through. -/
theorem Reachable.containPanics_of_panic (hs : Reachable app s)
    (hcontrol : s.control = .dispatch sc origin event) (ht : EndsAt app s t)
    (hpanic : t.control = .unwinding payload) :
    (app.settings sc.manager).containPanics = false := by
  apply (ht.1.reachable hs).nested.containPanics_of_dispatch hpanic
  intro place hsupports
  rw [ht.stack_eq] at hsupports
  exact (hs.nested.supports_dispatch hcontrol).eq_dispatch hsupports

/-- A panic that leaves a dispatch comes out of an attempt or out of the dispatch of a report, and
changes nothing on the way. -/
theorem Reachable.exists_aborting (hs : Reachable app s)
    (hcontrol : s.control = .dispatch sc origin event) (ht : EndsAt app s t)
    (hpanic : t.control = .unwinding payload) :
    ∃ u, During app s u ∧ u.step app = t ∧ u.control = .unwinding payload ∧ t.world = u.world ∧
      ∃ scope d b rest, u.stack = .attempt scope d b rest :: s.stack ∨
        ∃ failure, u.stack = .reporting scope d b failure rest :: s.stack := by
  have hbase := hs.nested.supports_dispatch hcontrol
  have hstackt := ht.stack_eq
  have hlength := ht.2
  obtain ⟨hd, -⟩ := ht
  cases hd with
  | refl =>
    rw [hcontrol] at hpanic
    cases hpanic
  | @step u hu _ =>
    have hnested := (hu.reachable hs).nested
    have hmove := u.move_step app
    generalize hnext : u.step app = t at hmove hpanic hstackt hlength
    refine ⟨u, hu, hnext, ?_⟩
    cases hmove with
    | escape w payload scope d b rest K =>
      cases hpanic
      exact ⟨rfl, rfl, scope, d, b, rest, .inl (by rw [← hstackt])⟩
    | abandonReport w payload scope d b failure rest K =>
      cases hpanic
      exact ⟨rfl, rfl, scope, d, b, rest, .inr ⟨failure, by rw [← hstackt]⟩⟩
    | panic w scope payload K =>
      -- A handler does not stand where a dispatch does.
      obtain ⟨place, hplace, hsupports⟩ := hnested
      obtain rfl : K = s.stack := hstackt
      obtain ⟨event', rfl⟩ := hbase.eq_dispatch hsupports
      cases hplace
    | abandon w payload scope outermost reply K =>
      obtain rfl : K = s.stack := hstackt
      obtain ⟨place, -, hsupports⟩ := hnested
      cases hsupports with
      | firing hbelow =>
        obtain ⟨event', heq⟩ := hbase.eq_dispatch hbelow
        cases heq
    | unwindBody w payload scope next K =>
      obtain rfl : K = s.stack := hstackt
      obtain ⟨place, -, hsupports⟩ := hnested
      cases hsupports with
      | body hbelow =>
        obtain ⟨event', heq⟩ := hbase.eq_dispatch hbelow
        cases heq
    | unwindThread w payload K =>
      obtain rfl : K = s.stack := hstackt
      obtain ⟨place, -, hsupports⟩ := hnested
      cases hsupports with
      | joined hbelow =>
        obtain ⟨event', heq⟩ := hbase.eq_dispatch hbelow
        cases heq
    | rest w control K hended =>
      -- The dispatch ends with its next step, so this is not a state that stays as it is.
      rw [hnext, hstackt] at hlength
      exact absurd hlength (Nat.lt_irrefl _)
    | _ => cases hpanic

/-- What a panic passes when it leaves a dispatch is the delivery of the dispatch, with a handler of
the plan that has been called or whose error is being reported. -/
theorem Reachable.exists_underway (hs : Reachable app s)
    (hcontrol : s.control = .dispatch sc origin event) {u : State ν} (hu : During app s u)
    (hunwinding : u.control = .unwinding payload) {x : Underway} {frame : Frame ν}
    (hframe : frame.underway? = some x) (hstack : u.stack = frame :: s.stack) :
    x.scope = sc ∧ x.delivery = ⟨s.world.nextDispatch, event⟩ ∧
      s.world.nextDispatch < u.world.nextDispatch ∧ x ∈ u.underway ∧
      ∃ attempted, attempted ++ x.rest = (s.world.resolve app sc event.type).1.toList ∧
        u.attemptsOf s.world.nextDispatch
          = attempted.map (Attempt.mk sc ⟨s.world.nextDispatch, event⟩) := by
  have hpending : frame.pending? = some x.pending := by
    rw [← frame.underway?_map_pending, hframe]
    rfl
  have hmem : x ∈ u.underway := by
    rw [State.underway, hstack, List.filterMap_cons_some hframe]
    exact List.mem_append_right _ List.mem_cons_self
  obtain ⟨K, hK, hprogress⟩ := hs.progress hcontrol hu
  have hne : K ≠ [] := by
    rintro rfl
    have hlength := congrArg List.length (hstack.symm.trans hK)
    simp at hlength
  cases hprogress with
  | ready heq =>
    rw [heq, hcontrol] at hunwinding
    cases hunwinding
  | completed hnil => exact absurd hnil hne
  | abandoned hnil => exact absurd hnil hne
  | running done rest above hplan hall hlater hnext hattempts =>
    -- No delivery is above that of the dispatch.
    rw [State.pending, hstack, hunwinding, List.filterMap_cons_some hpending, State.pending,
      hcontrol] at hall
    obtain rfl : above = [] := by
      have hlength := congrArg List.length hall
      simpa [Control.pending?] using hlength
    obtain ⟨hthis, -⟩ := List.cons.inj hall
    obtain ⟨hscope, hdelivery, hrest⟩ := Pending.mk.inj hthis
    exact ⟨hscope, hdelivery, hnext, hmem, done, hrest ▸ hplan, hattempts⟩

/-- What the course of a delivery under way says about the handler that is being dealt with: it is
the last that has been attempted, and it has not been logged. -/
theorem Reachable.course_of_handler {u : State ν} (hu : Reachable app u) {x : Underway}
    (hx : x ∈ u.underway) {b : BoundHandler} (hb : x.stage.handler? = some b) :
    ∃ done, (u.course x.delivery.id).filterMap Entry.attempted? = done ++ [b] ∧
      b ∉ (u.course x.delivery.id).filterMap Entry.logged? ∧
      x.stage.Justified app x.scope.manager := by
  obtain ⟨x₀, done, hnodup, hshape⟩ := hu.exists_shape hx
  have hattempted := hshape.attempted_eq
  rw [hshape.plan_eq, hb] at hnodup
  rw [hb] at hattempted
  refine ⟨done, hattempted, ?_, hshape.justified⟩
  intro hlogged
  -- Only handlers that have been dealt with are logged, and the plan has none of them again.
  obtain ⟨-, -, hdisjoint⟩ := List.nodup_append.1 hnodup
  exact hdisjoint b (hshape.logged.subset hlogged) b List.mem_cons_self rfl

/-- A panic that leaves a dispatch aborts its delivery at the handler that has been attempted last,
about which nothing has been logged. -/
theorem Reachable.exists_abortedBy (hs : Reachable app s)
    (hcontrol : s.control = .dispatch sc origin event) (ht : EndsAt app s t)
    (hpanic : t.control = .unwinding payload) :
    s.world.nextDispatch < t.world.nextDispatch ∧ ∃ done b rest,
      (s.world.resolve app sc event.type).1.toList = done ++ b :: rest ∧
      s.AbortedBy app t sc ⟨s.world.nextDispatch, event⟩ b rest payload ∧
      (t.course s.world.nextDispatch).filterMap Entry.attempted? = done ++ [b] ∧
      b ∉ (t.course s.world.nextDispatch).filterMap Entry.logged? := by
  have hcontain := hs.containPanics_of_panic hcontrol ht hpanic
  obtain ⟨u, hu, hnext, hunwinding, hworld, scope, d, b, rest, hframe⟩ :=
    hs.exists_aborting hcontrol ht hpanic
  have hcourse (id : Nat) : t.course id = u.course id := by rw [State.course, hworld, State.course]
  -- What has been attempted and what is left make up the plan, whichever frame the panic passes.
  have hplan {x : Underway} (hx : x ∈ u.underway) (hb : x.stage.handler? = some b)
      (hdelivery : x.delivery.id = s.world.nextDispatch) {attempted : List BoundHandler}
      (hattempted : attempted ++ x.rest = (s.world.resolve app sc event.type).1.toList)
      (hattempts : u.attemptsOf s.world.nextDispatch
        = attempted.map (Attempt.mk sc ⟨s.world.nextDispatch, event⟩)) :
      x.stage.Justified app x.scope.manager ∧
        b ∉ (t.course s.world.nextDispatch).filterMap Entry.logged? ∧
        ∃ done, (s.world.resolve app sc event.type).1.toList = done ++ b :: x.rest ∧
          (t.course s.world.nextDispatch).filterMap Entry.attempted? = done ++ [b] := by
    obtain ⟨done, hdone, hlogged, hjustified⟩ := (hu.reachable hs).course_of_handler hx hb
    rw [hdelivery, ← hcourse] at hdone hlogged
    have hhandlers := u.map_handler_attemptsOf s.world.nextDispatch
    rw [hattempts, List.map_map, ← hcourse, hdone] at hhandlers
    obtain rfl : attempted = done ++ [b] := (List.map_id _).symm.trans hhandlers
    refine ⟨hjustified, hlogged, done, ?_, hdone⟩
    rw [← hattempted, List.append_assoc]
    rfl
  have hends {r : State ν} (hafter : During app (r.step app) u) {frame : Frame ν}
      (hpush : (r.step app).stack = frame :: s.stack) : EndsAt app (r.step app) u := by
    refine ⟨hafter, ?_⟩
    rw [hnext, ht.stack_eq, hpush]
    exact Nat.lt_succ_self _
  rw [hworld]
  rcases hframe with hattempt | ⟨failure, hreporting⟩
  · obtain ⟨rfl, rfl, hlt, hx, attempted, hattempted, hattempts⟩ :=
      hs.exists_underway hcontrol hu hunwinding rfl hattempt
    obtain ⟨-, hlogged, done, hdone, hcourse⟩ := hplan hx rfl rfl hattempted hattempts
    obtain ⟨r, hr, hstack, hpush, hafter⟩ := hu.exists_push (show u.stack = [] ++ _ from hattempt)
      (Nat.le_refl _)
    have hpushed := hpush
    rw [← hstack] at hpushed
    obtain ⟨hdeliver, part, hrun⟩ := (r.move_step app).of_push_attempt hpushed
    exact ⟨hlt, done, b, rest, hdone,
      .called r u part hr hdeliver hrun (hends hafter hpush) hunwinding hnext, hcourse, hlogged⟩
  · obtain ⟨rfl, rfl, hlt, hx, attempted, hattempted, hattempts⟩ :=
      hs.exists_underway hcontrol hu hunwinding rfl hreporting
    obtain ⟨hjustified, hlogged, done, hdone, hcourse⟩ := hplan hx rfl rfl hattempted hattempts
    obtain ⟨r, hr, hstack, hpush, hafter⟩ := hu.exists_push (show u.stack = [] ++ _ from hreporting)
      (Nat.le_refl _)
    have hpushed := hpush
    rw [← hstack] at hpushed
    obtain ⟨hfail, hdispatch⟩ := (r.move_step app).of_push_reporting hpushed
    cases failure with
    | returned e =>
      exact ⟨hlt, done, b, rest, hdone,
        .reported r u e hr hfail hdispatch (hends hafter hpush) hunwinding hnext, hcourse,
        hlogged⟩
    | panicked message =>
      have hcontained := hjustified.2 message rfl
      rw [hcontain] at hcontained
      cases hcontained
    | eventMismatch => cases hjustified.1

end Abort

/-! ## Afterwards -/

section Afterwards

variable {P : State ν → Prop} {s t : State ν} {id : Nat}

/-- Whether the dispatch with a number has begun and is not under way any more. -/
structure State.HasEnded (id : Nat) (s : State ν) : Prop where
  begun : id < s.world.nextDispatch
  idle : ∀ x ∈ s.underway, x.delivery.id ≠ id

/-- Nothing is entered about a dispatch that has ended. -/
theorem Proceeds.course_eq (h : Proceeds app s t) (hs : s.HasEnded id) :
    t.HasEnded id ∧ t.course id = s.course id := by
  obtain ⟨hlt, hidle⟩ := hs
  cases h with
  | idle hunderway hcourse hnext => exact ⟨⟨hnext ▸ hlt, hunderway ▸ hidle⟩, hcourse id⟩
  | begun scope origin event hunderway hcourse hnext =>
    refine ⟨⟨by omega, ?_⟩, hcourse id⟩
    rw [hunderway, List.forall_mem_cons]
    exact ⟨Nat.ne_of_gt hlt, hidle⟩
  | turned hturn hbefore hafter hcourse hnext =>
    rw [hbefore, List.forall_mem_cons] at hidle
    refine ⟨⟨hnext ▸ hlt, ?_⟩, ?_⟩
    · rw [hafter, List.forall_mem_cons, hturn.delivery_eq]
      exact hidle
    · rw [hcourse, if_neg hidle.1, List.append_nil]
  | ended hbefore hafter hcourse hnext =>
    rw [hbefore, List.forall_mem_cons] at hidle
    refine ⟨⟨hnext ▸ hlt, ?_⟩, hcourse id⟩
    rw [hafter]
    exact hidle.2

theorem Continues.course_eq (h : Continues app P s t) (hs : s.HasEnded id) :
    t.HasEnded id ∧ t.course id = s.course id := by
  induction h with
  | refl => exact ⟨hs, rfl⟩
  | @step t _ _ ih =>
    obtain ⟨hended, hcourse⟩ := (t.move_step app).proceeds.course_eq ih.1
    exact ⟨hended, hcourse.trans ih.2⟩
  | next command _ _ _ ih => exact ⟨⟨ih.1.begun, by simp⟩, ih.2⟩

/-- A dispatch that a run begins with has ended when the run ends: what is under way then was so
before. -/
theorem EndsAt.hasEnded (ht : EndsAt app s t) (hs : Reachable app s)
    (hbegun : s.world.nextDispatch < t.world.nextDispatch) : t.HasEnded s.world.nextDispatch := by
  refine ⟨hbegun, ?_⟩
  intro x hx
  rw [State.underway, underway?_eq_none_of_isOutcome ht.isOutcome, ht.stack_eq] at hx
  exact Nat.ne_of_lt (hs.coursed.numbered x (List.mem_append_right _ hx))

/-- If the course of a delivery logs nothing about a handler, no entry of the journal does. -/
theorem State.fact_ne_of_not_mem_logged {d : Delivery} {b : BoundHandler}
    (h : b ∉ (s.course d.id).filterMap Entry.logged?) :
    ∀ entry ∈ s.world.history, ∀ failure,
      entry.fact ≠ .undeliverable d b failure ∧ entry.fact ≠ .handlerError d b failure := by
  have hnot {entry : Entry ν} (hentry : entry ∈ s.world.history)
      (habout : entry.about? d.id = some entry) : entry.logged? ≠ some b := by
    intro hlogged
    apply h
    exact List.mem_filterMap.2 ⟨entry, List.mem_filterMap.2 ⟨entry, hentry, habout⟩, hlogged⟩
  rintro ⟨scope, fact⟩ hentry failure
  constructor
  · rintro rfl
    exact hnot hentry (by simp [Entry.about?, Fact.delivery?]) rfl
  · rintro rfl
    exact hnot hentry (by simp [Entry.about?, Fact.delivery?]) rfl

theorem During.exists_dispatches (h : During app s t) :
    ∃ ds, t.dispatches = s.dispatches ++ ds := by
  induction h with
  | refl => exact ⟨[], (List.append_nil _).symm⟩
  | @step t _ _ ih =>
    obtain ⟨ds, hds⟩ := ih
    exact ⟨_, by rw [(t.move_step app).dispatches, hds, List.append_assoc]⟩

theorem Continues.exists_dispatches (h : Continues app P s t) :
    ∃ ds, t.dispatches = s.dispatches ++ ds := by
  induction h with
  | refl => exact ⟨[], (List.append_nil _).symm⟩
  | @step t _ _ ih =>
    obtain ⟨ds, hds⟩ := ih
    exact ⟨_, by rw [(t.move_step app).dispatches, hds, List.append_assoc]⟩
  | next command _ hr _ ih =>
    obtain ⟨ds, hds⟩ := ih
    exact ⟨ds, (State.dispatches_start hr command).trans hds⟩

/-- Whether the fire of an event that has been asked for begins afresh: as an outermost one with an
empty guard, and with a plan for the given bindings. -/
structure State.FiresAfresh (app : Application ν) (s : State ν) (sc : Scope) (event : Event)
    (places : List (ObjectId × Nat)) : Prop where
  outermost : OutermostFire (s.step app) sc event
  guard_eq : (s.step app).world.guard? sc = some []
  plan : ∃ handlers, ((s.step app).step app).control
      = .deliver sc ⟨(s.step app).world.nextDispatch, event⟩ handlers ∧
    handlers.map BoundHandler.place = places

/-- A fire of a scope without a guard begins afresh, with the plan that the registered objects
give. -/
theorem Reachable.firesAfresh (hs : Reachable app s) {sc : Scope} {event : Event}
    (hcontrol : s.control = .perform sc (.fire event)) (hguard : s.world.guard? sc = none) :
    s.FiresAfresh app sc event
      (app.reference sc.manager (s.world.manager sc.manager).registry.objects event.type) := by
  have hguarded := hs.guarded sc
  have hs' := hs.step
  have hnone : firesOf sc s.stack = [] := by
    apply List.eq_nil_iff_forall_not_mem.2
    intro outermost hfire
    have hsome := hguarded.isSome_iff.2 ⟨outermost, hfire⟩
    rw [hguard] at hsome
    cases hsome
  obtain ⟨w, control, K⟩ := s
  subst hcontrol
  have hfire : OutermostFire (State.step app ⟨w, .perform sc (.fire event), K⟩) sc event :=
    ⟨⟨.request, rfl⟩, ⟨_, _, K, rfl, hnone⟩⟩
  have hmanager : (State.step app ⟨w, .perform sc (.fire event), K⟩).world.manager sc.manager
      = w.manager sc.manager := w.manager_enter sc sc.manager
  refine ⟨hfire, hfire.guard?_eq hs', _, hs'.control_of_dispatch rfl, ?_⟩
  rw [← hmanager]
  exact (hs'.sound sc.manager).place_currentPlan event.type_ne_any

/-- The reference depends on the manager by its depth bound only. -/
theorem Application.reference_congr {m m' : ManagerId} (h : app.maxDepth m = app.maxDepth m')
    (objects : List ObjectId) (t : EventType) :
    app.reference m objects t = app.reference m' objects t := by
  have hcontribution : app.contribution? m t = app.contribution? m' t := by
    funext p o
    rw [contribution?, contribution?, h]
  rw [reference, reference, hcontribution]

end Afterwards

/-- A panic that leaves a dispatch leaves it after a beginning of its plan, all phases counted, that
ends with the handler whose call or whose report the panic came out of; no more of the plan is
attempted, and no warning or error is ever logged about that handler's failure. The registries hold
exactly the changes that have been announced, the one of an announcement that is aborted included,
and the cached plans are those of the registries. If the fire was an outermost one its guard is
gone, and the next fire begins as it does wherever the same objects are registered. -/
theorem Reachable.aborted_dispatch {s : State ν} (hs : Reachable app s) {sc : Scope}
    {origin : Origin} {event : Event} (hcontrol : s.control = .dispatch sc origin event)
    {t : State ν} (ht : EndsAt app s t) {payload : Payload}
    (hpanic : t.control = .unwinding payload) :
    (app.settings sc.manager).containPanics = false ∧
    (∃ done b rest,
      (s.step app).control = .deliver sc ⟨s.world.nextDispatch, event⟩ (done ++ b :: rest) ∧
      s.AbortedBy app t sc ⟨s.world.nextDispatch, event⟩ b rest payload ∧
      ∀ v, Continues app (fun _ => True) t v →
        (v.attemptsOf s.world.nextDispatch).map (·.handler) = done ++ [b] ∧
        ∀ entry ∈ v.world.history, ∀ failure,
          entry.fact ≠ .undeliverable ⟨s.world.nextDispatch, event⟩ b failure ∧
          entry.fact ≠ .handlerError ⟨s.world.nextDispatch, event⟩ b failure) ∧
    (origin = .membership → event.Describes (s.world.manager sc.manager).registry.objects) ∧
    (∀ v, Continues app (fun _ => True) t v → ∃ ds, v.dispatches = s.dispatches ++ ds ∧ ∀ m,
      v.dispatches.foldlM (Begun.enroll? m) [] = some (v.world.manager m).registry.objects ∧
      ds.foldlM (Begun.enroll? m) (s.world.manager m).registry.objects
        = some (v.world.manager m).registry.objects ∧
      ∀ type plan, (v.world.manager m).cache.find? type = some plan →
        plan = Plan.build app.hierarchy (app.maxDepth m) (v.world.manager m).registry type) ∧
    (OutermostFire s sc event → (t.step app).world.guard? sc = none ∧
      ∀ v e, Continues app (fun v => v.world.guard? sc = none) (t.step app) v →
        v.control = .perform sc (.fire e) →
        ∀ v' sc', Reachable app v' → v'.control = .perform sc' (.fire e) →
          v'.world.guard? sc' = none → app.maxDepth sc'.manager = app.maxDepth sc.manager →
          (v'.world.manager sc'.manager).registry.objects
            = (v.world.manager sc.manager).registry.objects →
          ∃ places, v.FiresAfresh app sc e places ∧ v'.FiresAfresh app sc' e places) := by
  have hreachable := ht.1.reachable hs
  refine ⟨hs.containPanics_of_panic hcontrol ht hpanic, ?_, ?_, ?_, ?_⟩
  · obtain ⟨hbegun, done, b, rest, hplan, haborted, hattempted, hlogged⟩ :=
      hs.exists_abortedBy hcontrol ht hpanic
    refine ⟨done, b, rest, ?_, haborted, ?_⟩
    · rw [(s.move_step app).of_dispatch hcontrol, hplan]
    · intro v hv
      obtain ⟨-, hcourse⟩ := hv.course_eq (ht.hasEnded hs hbegun)
      rw [← hcourse] at hattempted hlogged
      refine ⟨?_, State.fact_ne_of_not_mem_logged hlogged⟩
      rw [State.map_handler_attemptsOf, hattempted]
  · rintro rfl
    exact hs.describes sc event hcontrol
  · intro v hv
    have hv' := hv.reachable hreachable
    obtain ⟨ds, hds⟩ := ht.1.exists_dispatches
    obtain ⟨ds', hds'⟩ := hv.exists_dispatches
    rw [hds, List.append_assoc] at hds'
    refine ⟨ds ++ ds', hds', ?_⟩
    intro m
    exact ⟨hv'.enroll?_dispatches m, hs.enroll?_since hv' hds' m,
      fun type plan hcached => (hv'.sound m).cached hcached⟩
  · intro hfire
    refine ⟨hfire.guard?_step hs ht, ?_⟩
    intro v e hv hcontrolv v' sc' hv' hcontrolv' hguard' hdepth hobjects
    refine ⟨_, (hv.reachable hreachable.step).firesAfresh hcontrolv hv.holds, ?_⟩
    rw [← hobjects, ← Application.reference_congr hdepth]
    exact hv'.firesAfresh hcontrolv' hguard'

/-- A clerk that refuses the third object it is told of, an alarm of a manager that lets panics
through, and a cleaner that comes last. -/
def collapse : Script.Cast where
  hierarchy := ⟨fun _ => none⟩
  names := ⟨fun _ => "Event", fun _ => .labelled "Event"⟩
  managers := [{ containPanics := false }]
  roles := [
    some ⟨"Clerk", false, [⟨⟨.invoke, .observerAdded, "enter"⟩, false,
      [⟨.fail ⟨"full", []⟩, 2, some 3, none⟩]⟩]⟩,
    some ⟨"Alarm", false, [⟨⟨.invoke, .observerFailed, "ring"⟩, false,
      [⟨.panic (.text "alarm"), 0, none, none⟩]⟩]⟩,
    some ⟨"Cleaner", false, [⟨⟨.after, .observerAdded, "tidy"⟩, false, []⟩,
      ⟨⟨.after, .custom 0, "clean"⟩, false, []⟩]⟩]

/-- The state in which the addition of the cleaner, the third of them, is about to be announced. -/
def collapseState : State Script.Note :=
  (State.start (World.after collapse.application 40 {} [{ operation := .add 0 },
    { operation := .add 1 }]) { operation := .add 2 }).steps collapse.application 2

/-- The state in which the next command after the panic is about to fire an event. -/
def salvageState : State Script.Note :=
  (State.start (collapseState.steps collapse.application 15).world
    { operation := .fire (.plain 0 "") }).step collapse.application

/-- The state in which the event is about to be fired where the clerk has been told of so many
objects before there was an alarm that all three have been added without a panic. -/
def intactState : State Script.Note :=
  (State.start (World.after collapse.application 40 {} [{ operation := .add 0 },
    { operation := .remove 0 }, { operation := .add 0 }, { operation := .remove 0 },
    { operation := .add 0 }, { operation := .add 1 }, { operation := .add 2 }])
      { operation := .fire (.plain 0 "") }).step collapse.application

/-- The alarm panics over the clerk's error, so the cleaner does not hear of its own addition. It is
registered nevertheless, and the next fire goes to it as if nothing had happened. -/
theorem collapse_aborts_after_registration :
    EndsAt collapse.application collapseState (collapseState.steps collapse.application 14) ∧
      (∃ done b rest,
        ((done ++ b :: rest).map (·.observer) = [0, 2] ∧ (done ++ [b]).map (·.observer) = [0]) ∧
        collapseState.AbortedBy collapse.application
          (collapseState.steps collapse.application 14) ⟨0, 0⟩ ⟨2, .observerAdded 2 "Cleaner"⟩ b
          rest (.text "alarm")) ∧
      ((collapseState.steps collapse.application 14).world.manager 0).registry.objects
        = [0, 1, 2] ∧
      ∃ places, salvageState.FiresAfresh collapse.application ⟨0, 0⟩ (.plain 0 "") places ∧
        intactState.FiresAfresh collapse.application ⟨0, 0⟩ (.plain 0 "") places := by
  have hs : Reachable collapse.application collapseState :=
    (Reachable.after _ (fun _ => .start _) (by decide +kernel)).steps 2
  have hends : EndsAt collapse.application collapseState
      (collapseState.steps collapse.application 14) :=
    .of_steps (by decide +kernel) (by decide +kernel)
  have hcontrol : collapseState.control
      = .dispatch ⟨0, 0⟩ .membership (.observerAdded 2 "Cleaner") := rfl
  have hfire : OutermostFire collapseState ⟨0, 0⟩ (.observerAdded 2 "Cleaner") :=
    ⟨⟨.membership, rfl⟩, ⟨true, _, [], rfl, rfl⟩⟩
  have hintact : Reachable collapse.application intactState :=
    (Reachable.after _ (fun _ => .start _) (by decide +kernel)).steps 1
  obtain ⟨-, ⟨done, b, rest, hplan, haborted, hafter⟩, -, hregistry, hguard⟩ :=
    hs.aborted_dispatch hcontrol hends rfl
  obtain ⟨hattempted, -⟩ := hafter _ (.refl trivial)
  obtain ⟨ds, -, hall⟩ := hregistry _ (.refl trivial)
  obtain ⟨hgone, hfires⟩ := hguard hfire
  have hsalvage : Continues collapse.application (fun v => v.world.guard? ⟨0, 0⟩ = none)
      ((collapseState.steps collapse.application 14).step collapse.application) salvageState :=
    .step (.next _ (.refl hgone) rfl (by decide +kernel)) (by decide +kernel)
  refine ⟨hends, ⟨done, b, rest, ⟨?_, ?_⟩, haborted⟩, ?_, ?_⟩
  · have hresolved := (hs.control_of_dispatch hcontrol).symm.trans hplan
    rw [← (Control.deliver.inj hresolved).2.2]
    decide +kernel
  · rw [← hattempted]
    decide +kernel
  · exact Option.some.inj ((hall 0).1.symm.trans (by decide +kernel))
  · exact hfires salvageState _ hsalvage rfl intactState _ hintact rfl (by decide +kernel) rfl
      (by decide +kernel)

end EventDispatch
