import EventDispatch.Proofs.Event.Lineage
import EventDispatch.Proofs.Failure.Reports
import EventDispatch.Proofs.Failure.Termination
import EventDispatch.Script.Play

/-!
# The failure-report loop

An outermost fire of restrained handlers ends, dispatches no more reports than there are handlers,
and nests dispatches no deeper than two for each handler and two more
(`Reachable.report_loop_ends`). The reports that are dispatched are those that the ledger of the
fire holds, and these are made for different handlers of the guard.
-/

set_option autoImplicit false

namespace EventDispatch

variable {ν : Type} {app : Application ν}

/-- What is dispatched while handlers are restrained: in the scope of the fire, reports and events
that are no failure reports. -/
structure Begun.Restrained (app : Application ν) (sc : Scope) (d : Begun) : Prop where
  scope_eq : d.scope = sc
  report : d.isReport = true → d.event.type = .observerFailed
  aside : d.isReport = false → app.reports sc.manager d.event = false

theorem Application.reports_of_type {m : ManagerId} (hdepth : 0 < app.maxDepth m) {event : Event}
    (htype : event.type = .observerFailed) : app.reports m event = true := by
  rw [Application.reports, Event.isFailureReport, Event.isA, Hierarchy.isA_iff, htype,
    Hierarchy.ancestry_eq_lineage _ _ (by decide), Hierarchy.lineage]
  refine List.mem_append_left _ (List.mem_filterMap.2 ⟨0, List.mem_range.2 hdepth, rfl⟩)

/-- With a positive bound on the depth the reports are the dispatches of events of their type. -/
theorem Begun.Restrained.isReport_iff {sc : Scope} {d : Begun} (h : d.Restrained app sc)
    (hdepth : 0 < app.maxDepth sc.manager) :
    d.isReport = true ↔ d.event.type = .observerFailed := by
  refine ⟨h.report, ?_⟩
  intro htype
  cases hreport : d.isReport with
  | true => rfl
  | false =>
    exact (h.aside hreport).symm.trans (Application.reports_of_type hdepth htype)

theorem Move.restrained_of_begun {sc : Scope} {s t t' : State ν} {K : List (Frame ν)}
    (h : Move app t t') (ht : Confined app sc s K t) {d : Begun}
    (hd : t'.control.begun? = some d) : d.Restrained app sc := by
  obtain ⟨place, hplace, -⟩ := ht.place
  cases h with
  | joined _ _ _ _ _ _ _ hop =>
    cases hplace with
    | perform haside => exact absurd (Operation.isMembership_of_isAside haside) (by simp [hop])
  | parted _ _ _ _ _ _ _ hop =>
    cases hplace with
    | perform haside => exact absurd (Operation.isMembership_of_isAside haside) (by simp [hop])
  | fire w scope event K =>
    cases hplace with
    | perform haside =>
      cases hd
      exact ⟨rfl, nofun, fun _ => Operation.reports_of_isAside haside⟩
  | report =>
    cases hplace with
    | fail hknown =>
      cases hd
      exact ⟨rfl, fun _ => rfl, nofun⟩
  | rest w control K hended =>
    rw [begun?_eq_none_of_isOutcome hended] at hd
    cases hd
  | _ => cases hd

namespace OutermostFire

variable {s : State ν} {sc : Scope} {event : Event}

section Bounds

variable (hs : Reachable app s) (h : OutermostFire s sc event)
  (hrestrained : ∀ t, During app s t → t.restrained app sc = true)

include hs h hrestrained

theorem dispatches_restrained {t : State ν} (ht : During app s t) :
    ∃ ds, t.dispatches = s.dispatches ++ ds ∧ ∀ d ∈ ds, d.Restrained app sc := by
  have hkept {t t' : State ν} {K K' : List (Frame ν)} (hd : During app s t) (_ : During app s t')
      (_ : t.stack = K ++ s.stack) (_ : t'.stack = K' ++ s.stack) (hmove : Move app t t')
      (hds : ∃ ds, t.dispatches = s.dispatches ++ ds ∧ ∀ d ∈ ds, d.Restrained app sc) :
      ∃ ds, t'.dispatches = s.dispatches ++ ds ∧ ∀ d ∈ ds, d.Restrained app sc := by
    obtain ⟨ds, hds, hall⟩ := hds
    obtain ⟨K, -, hconfined⟩ := h.confined hs hrestrained hd
    refine ⟨ds ++ t'.control.begun?.toList, ?_, ?_⟩
    · rw [hmove.dispatches, hds, List.append_assoc]
    · intro d hd
      rcases List.mem_append.1 hd with hold | hnew
      · exact hall d hold
      · exact hmove.restrained_of_begun hconfined (Option.mem_toList.1 hnew)
  obtain ⟨-, -, hds⟩ := ht.induction ⟨[], (List.append_nil _).symm, nofun⟩ hkept
  exact hds

/-- At most as many reports are booked in a fire as there are handlers. -/
theorem reported_length_le {t : State ν} (ht : During app s t) {bs : List Booking}
    (hbs : t.bookings sc = s.bookings sc ++ bs) :
    (Ledger.reported bs).length ≤ (s.world.handlersOf sc.manager).length := by
  obtain ⟨K, -, bs', hbs', hrun⟩ := h.run hs ht
  obtain rfl : bs = bs' := List.append_cancel_left (hbs.symm.trans hbs')
  exact Nat.le_trans hrun.frugal.sublist.length_le (h.failed_length_le hs hrestrained ht)

theorem countP_isReport_le {t : State ν} (ht : During app s t) {ds : List Begun}
    (hds : t.dispatches = s.dispatches ++ ds) (hall : ∀ d ∈ ds, d.Restrained app sc) :
    ds.countP Begun.isReport ≤ (s.world.handlersOf sc.manager).length := by
  obtain ⟨-, -, bs, hbs, -⟩ := h.run hs ht
  have hcount : ds.countP Begun.isReport = (ds.filterMap (Begun.reportIn? sc)).length := by
    rw [List.length_filterMap_eq_countP]
    apply List.countP_congr
    intro d hd
    obtain ⟨scope, origin, event⟩ := d
    obtain rfl : scope = sc := (hall _ hd).scope_eq
    cases origin <;> simp [Begun.isReport, Begun.reportIn?]
  have hle := h.reported_length_le hs hrestrained ht hbs
  rwa [Ledger.reported_eq, List.length_map, State.reports_since hds hbs, ← hcount] at hle

/-- Every report under way above the frames of the fire is booked, so there are at most as many as
there are handlers, and fires and reports alternate. -/
theorem exists_stack_depth_le {t : State ν} (ht : During app s t) :
    ∃ K, t.stack = K ++ s.stack ∧
      dispatchesIn K ≤ 2 * (s.world.handlersOf sc.manager).length + 1 := by
  obtain ⟨K, hK, bs, hbs, hrun⟩ := h.run hs ht
  obtain ⟨K', hK', ⟨⟨place, -, hwithin⟩, -⟩⟩ := h.confined hs hrestrained ht
  obtain rfl : K = K' := List.append_cancel_right (hK.symm.trans hK')
  have hreports : reportsIn K ≤ (s.world.handlersOf sc.manager).length := by
    rw [hwithin.reportsIn_eq]
    exact Nat.le_trans hrun.frugal.waiting (h.reported_length_le hs hrestrained ht hbs)
  refine ⟨K, hK, ?_⟩
  have hdepth := hwithin.depth_le.1
  omega

end Bounds

end OutermostFire

/-- An outermost fire of restrained handlers ends. Besides its own event it dispatches at most as
many reports as there are handlers, and no other events of their type; together with its own
dispatch there are never more than two dispatches for each handler, and two more, inside one
another. -/
theorem Reachable.report_loop_ends {s : State ν} (hs : Reachable app s) {sc : Scope} {event : Event}
    (hfire : OutermostFire s sc event)
    (hrestrained : ∀ t, During app s t → t.restrained app sc = true) :
    (∃ t, EndsAt app s t) ∧ ∀ t, During app s t →
      (∃ ds, t.dispatches = s.dispatches ++ ds ∧
        ds.countP Begun.isReport ≤ (s.world.handlersOf sc.manager).length ∧
        (0 < app.maxDepth sc.manager →
          ∀ d ∈ ds, d.isReport = true ↔ d.event.type = .observerFailed)) ∧
      ∃ K, t.stack = K ++ s.stack ∧
        dispatchesIn K + 1 ≤ 2 * (s.world.handlersOf sc.manager).length + 2 := by
  refine ⟨hfire.exists_endsAt hs hrestrained, fun t ht => ⟨?_, ?_⟩⟩
  · obtain ⟨ds, hds, hall⟩ := hfire.dispatches_restrained hs hrestrained ht
    exact ⟨ds, hds, hfire.countP_isReport_le hs hrestrained ht hds hall,
      fun hdepth d hd => (hall d hd).isReport_iff hdepth⟩
  · obtain ⟨K, hK, hdepth⟩ := hfire.exists_stack_depth_le hs hrestrained ht
    exact ⟨K, hK, Nat.succ_le_succ hdepth⟩

/-- A worker that always fails, and a monitor that panics before the worker's turn, has the event
fired again when it hears of a failure, and fails then. -/
def relapse : Script.Cast where
  hierarchy := ⟨fun _ => none⟩
  names := ⟨fun _ => "Event", fun _ => .labelled "Event"⟩
  managers := [{}]
  roles := [
    some ⟨"Worker", false, [⟨⟨.invoke, .custom 0, "work"⟩, false,
      [⟨.fail ⟨"broken", []⟩, 0, none, none⟩]⟩]⟩,
    some ⟨"Monitor", false, [
      ⟨⟨.before, .custom 0, "prepare"⟩, false, [⟨.panic (.text "unready"), 0, none, none⟩]⟩,
      ⟨⟨.invoke, .observerFailed, "retry"⟩, false,
        [⟨.act ⟨.fire (.plain 0 "") .typed, 0, .caught⟩ false, 0, none, none⟩,
          ⟨.fail ⟨"again", []⟩, 0, none, none⟩]⟩]⟩]

/-- The state in which the event of a fire is about to be dispatched to them. -/
def relapseState : State Script.Note :=
  (State.start (World.after relapse.application 20 {} [{ operation := .add 0 },
    { operation := .add 1 }]) { operation := .fire (.plain 0 "") }).steps relapse.application 2

/-- Every report makes the monitor fire the event again; the second time all three handlers have
failed, and the loop ends. -/
theorem relapse_ends_at_depth_eight :
    Reachable relapse.application relapseState ∧
      OutermostFire relapseState ⟨0, 0⟩ (.plain 0 "") ∧
      (∀ t, During relapse.application relapseState t →
        t.restrained relapse.application ⟨0, 0⟩ = true) ∧
      (relapseState.world.handlersOf 0).length = 3 ∧
      (∃ t, EndsAt relapse.application relapseState t) ∧
      ∃ K, (relapseState.steps relapse.application 40).stack = K ++ relapseState.stack ∧
        dispatchesIn K + 1 ≤ 8 := by
  have hs : Reachable relapse.application relapseState :=
    (Reachable.after _ (fun _ => .start _) (by decide +kernel)).steps 2
  have hfire : OutermostFire relapseState ⟨0, 0⟩ (.plain 0 "") :=
    ⟨⟨.request, rfl⟩, ⟨true, _, [], rfl, rfl⟩⟩
  have hends : EndsAt relapse.application relapseState
      (relapseState.steps relapse.application 76) :=
    .of_steps (by decide +kernel) (by decide +kernel)
  have hall : ∀ k ≤ 76, (relapseState.steps relapse.application k).restrained
      relapse.application ⟨0, 0⟩ = true := by decide +kernel
  have hrestrained : ∀ t, During relapse.application relapseState t →
      t.restrained relapse.application ⟨0, 0⟩ = true := by
    intro t ht
    obtain ⟨k, hk, rfl⟩ := hends.exists_steps ht
    exact hall k hk
  have hcount : (relapseState.world.handlersOf 0).length = 3 := by decide +kernel
  obtain ⟨hterminates, hbounds⟩ := hs.report_loop_ends hfire hrestrained
  obtain ⟨-, K, hK, hdepth⟩ := hbounds _ (.of_steps (n := 40) (by decide +kernel))
  rw [hcount] at hdepth
  exact ⟨hs, hfire, hrestrained, hcount, hterminates, K, hK, hdepth⟩

end EventDispatch
