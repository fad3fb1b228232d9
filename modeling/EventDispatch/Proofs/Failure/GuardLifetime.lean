import EventDispatch.Proofs.Failure.FirstFailure
import EventDispatch.Proofs.Failure.Isolation
import EventDispatch.Proofs.Failure.Reports
import EventDispatch.Proofs.Machine.Ending

/-!
# The lifetime of a guard

A scope has a guard exactly while a fire of it is on the stack, and the one of its fires that has no
other below it takes the guard away when it ends, by a reply or by a panic. In between the guard
holds the handlers that have failed in the scope since that fire began, in whichever of its fires;
threads and managers do not see each other's guards (`Reachable.guard_lifetime`).
-/

set_option autoImplicit false

namespace EventDispatch

variable {ν : Type} {app : Application ν}

/-! ## Fires on the stack -/

theorem mem_firesOf_iff {sc : Scope} {K : List (Frame ν)} {outermost : Bool} :
    outermost ∈ firesOf sc K ↔ ∃ reply, Frame.firing sc outermost reply ∈ K := by
  rw [firesOf, List.mem_filterMap]
  constructor
  · rintro ⟨frame, hframe, hfire⟩
    cases frame with
    | firing scope outermost' reply =>
      simp only [Frame.fireOf?, Option.ite_none_right_eq_some, Option.some.injEq] at hfire
      obtain ⟨rfl, rfl⟩ := hfire
      exact ⟨reply, hframe⟩
    | _ => cases hfire
  · rintro ⟨reply, hframe⟩
    exact ⟨_, hframe, if_pos rfl⟩

namespace Guarded

variable {guard : Option (List Nat)} {fires : List Bool}

/-- There is a guard exactly if there is a fire. -/
theorem isSome_iff (h : Guarded guard fires) :
    guard.isSome = true ↔ ∃ outermost, outermost ∈ fires := by
  cases h with
  | idle => simp
  | busy failed n => exact ⟨fun _ => ⟨true, by simp⟩, fun _ => rfl⟩

/-- A fire counts as outermost if there is no other below it. -/
theorem outermost_iff {above below : List Bool} {outermost : Bool}
    (h : Guarded guard (above ++ outermost :: below)) : outermost = true ↔ below = [] := by
  generalize hfires : above ++ outermost :: below = fires at h
  cases h with
  | idle => exact absurd hfires (by simp)
  | busy failed n =>
    -- Only the last fire counts as outermost, so the induction is on those above the one at hand.
    induction above generalizing n with
    | nil =>
      cases n with
      | zero =>
        cases hfires
        simp
      | succ n =>
        cases hfires
        simp
    | cons fire above ih =>
      cases n with
      | zero => simp at hfires
      | succ n => exact ih n (List.cons.inj hfires).2

end Guarded

/-- A thread that is about to be started has no fires under way. -/
theorem Reachable.firesOf_nextThread {s : State ν} (hs : Reachable app s) (m : ManagerId) :
    firesOf ⟨s.world.nextThread, m⟩ s.stack = [] := by
  apply List.eq_nil_iff_forall_not_mem.2
  intro outermost hfire
  obtain ⟨reply, hframe⟩ := mem_firesOf_iff.1 hfire
  have hscope : (⟨s.world.nextThread, m⟩ : Scope) ∈ s.scopes :=
    List.mem_append_right _ (List.mem_filterMap.2 ⟨_, hframe, rfl⟩)
  exact Nat.lt_irrefl _ (hs.threaded.given _ hscope)

/-! ## Outermost fires -/

/-- What a control is about to book is no failure. -/
theorem Control.attempts_booking? (sc : Scope) (control : Control ν) :
    Booking.attempts (control.booking? sc).toList = [] := by
  cases control with
  | dispatch scope origin event =>
    cases origin with
    | report i =>
      simp only [booking?]
      split <;> rfl
    | _ => rfl
  | _ => rfl

/-- The handlers that have failed in a scope on the way from `s` to `t`, in the order of their first
failures. -/
def State.failedSince (sc : Scope) (s t : State ν) : List Nat :=
  (FailedAttempt.firsts (Booking.attempts (s.booked sc t))).map (·.handler.id)

namespace OutermostFire

variable {s t : State ν} {sc : Scope} {event : Event}

/-- As long as an outermost fire lasts the guard holds the handlers that have failed in its scope
since it began. -/
theorem guard?_eq_failedSince (h : OutermostFire s sc event) (hs : Reachable app s)
    (ht : During app s t) : t.world.guard? sc = some (s.failedSince sc t) := by
  obtain ⟨K, hK, bs, hbs, hrun⟩ := h.run hs ht
  obtain ⟨failed, hfailed⟩ := Option.isSome_iff_exists.1 (h.isSome_guard? hs ht)
  rw [State.bookings, h.bookings_eq hs, State.read_since _ ht.history_grows,
    List.append_assoc] at hbs
  have hattempts : Booking.attempts bs = Booking.attempts (s.booked sc t) := by
    rw [← List.append_cancel_left hbs, Booking.attempts_append, Control.attempts_booking?,
      List.append_nil]
    rfl
  have hguard := hrun.prompt.guard_eq
  simp only [hfailed, Option.getD_some, hattempts] at hguard
  rw [hfailed, hguard]
  rfl

/-- The guard is gone when an outermost fire has ended. -/
theorem guard?_step (h : OutermostFire s sc event) (hs : Reachable app s) (ht : EndsAt app s t) :
    (t.step app).world.guard? sc = none := by
  obtain ⟨outermost, reply, K, hstack, hK⟩ := h.stack
  have hreachable := ht.1.reachable hs
  have hpop := (hreachable.nested.step_of_firing ht.isOutcome (ht.stack_eq.trans hstack)).1
  have hguarded := hreachable.step.guarded sc
  rw [hpop, hK] at hguarded
  exact hguarded.eq_none

end OutermostFire

/-- A scope has a guard exactly while a fire of it is on the stack. Of its fires the one without
another below it is the one that ends the guard, and a thread that is started has no guards. An
outermost fire begins with an empty guard, which holds from then on the handlers that have failed in
the scope since, and is gone when the fire has ended. Steps that act in other scopes leave the guard
as it is, and are the same whatever it holds. -/
theorem Reachable.guard_lifetime {s : State ν} (hs : Reachable app s) (sc : Scope) :
    ((s.world.guard? sc).isSome = true
      ↔ ∃ outermost reply, Frame.firing sc outermost reply ∈ s.stack) ∧
    (∀ above outermost reply below, s.stack = above ++ .firing sc outermost reply :: below →
      (outermost = true ↔ firesOf sc below = [])) ∧
    (∀ m, s.world.guard? ⟨s.world.nextThread, m⟩ = none) ∧
    (∀ event, OutermostFire s sc event →
      s.world.guard? sc = some [] ∧
      (∀ t, During app s t → t.world.guard? sc = some (s.failedSince sc t)) ∧
      ∀ t, EndsAt app s t → (t.step app).world.guard? sc = none) ∧
    ∀ n, (∀ k < n, (s.steps app k).scope? ≠ some sc) →
      (s.steps app n).world.guard? sc = s.world.guard? sc ∧
      ∀ failed, (s.world.guard? sc).isSome = true →
        (s.withGuard sc failed).steps app n = (s.steps app n).withGuard sc failed := by
  have hguarded := hs.guarded
  refine ⟨?_, ?_, ?_, ?_, ?_⟩
  · rw [(hguarded sc).isSome_iff]
    exact exists_congr fun outermost => mem_firesOf_iff
  · intro above outermost reply below hstack
    have hfires := hguarded sc
    rw [hstack, firesOf_append, firesOf_firing_self] at hfires
    exact hfires.outermost_iff
  · intro m
    have hfresh := hguarded ⟨s.world.nextThread, m⟩
    rw [hs.firesOf_nextThread] at hfresh
    exact hfresh.eq_none
  · intro event hfire
    exact ⟨hfire.guard?_eq hs, fun t ht => hfire.guard?_eq_failedSince hs ht,
      fun t ht => hfire.guard?_step hs ht⟩
  · intro n hn
    exact ⟨State.guard?_steps hn, fun failed hsome => State.steps_withGuard hn hsome failed⟩

/-- A worker that fails, and a monitor of a manager that lets panics through: when it hears of the
failure it has the event fired again on another thread, and the second time it panics. -/
def alarm : Script.Cast where
  hierarchy := ⟨fun _ => none⟩
  names := ⟨fun _ => "Event", fun _ => .labelled "Event"⟩
  managers := [{ containPanics := false }]
  roles := [
    some ⟨"Worker", false, [⟨⟨.invoke, .custom 0, "work"⟩, false,
      [⟨.fail ⟨"broken", []⟩, 0, none, none⟩]⟩]⟩,
    some ⟨"Monitor", false, [⟨⟨.invoke, .observerFailed, "ring"⟩, false,
      [⟨.act ⟨.fire (.plain 0 "") .typed, 0, .spawned⟩ false, 0, some 1, none⟩,
        ⟨.panic (.text "alarm"), 0, none, none⟩]⟩]⟩]

/-- The state in which the event of a fire is about to be dispatched to them. -/
def alarmState : State Script.Note :=
  (State.start (World.after alarm.application 20 {} [{ operation := .add 0 },
    { operation := .add 1 }]) { operation := .fire (.plain 0 "") }).steps alarm.application 2

/-- The fire on the other thread has a guard of its own, which begins empty while that of the first
fire holds the worker, and does not see what the first fire holds. The panic takes both of them
away. -/
theorem alarm_threads_guarded_apart :
    Reachable alarm.application alarmState ∧
      OutermostFire alarmState ⟨0, 0⟩ (.plain 0 "") ∧
      OutermostFire (alarmState.steps alarm.application 15) ⟨1, 0⟩ (.plain 0 "") ∧
      EndsAt alarm.application alarmState (alarmState.steps alarm.application 34) ∧
      (alarmState.steps alarm.application 34).control = .unwinding (.text "alarm") ∧
      alarmState.world.guard? ⟨0, 0⟩ = some [] ∧
      (alarmState.steps alarm.application 15).world.guard? ⟨0, 0⟩ = some [0] ∧
      (alarmState.steps alarm.application 15).world.guard? ⟨1, 0⟩ = some [] ∧
      (∀ failed, ((alarmState.steps alarm.application 14).withGuard ⟨0, 0⟩ failed).steps
          alarm.application 17
        = ((alarmState.steps alarm.application 14).steps alarm.application 17).withGuard ⟨0, 0⟩
            failed) ∧
      ((alarmState.steps alarm.application 34).step alarm.application).world.guard? ⟨0, 0⟩
        = none := by
  have hs : Reachable alarm.application alarmState :=
    (Reachable.after _ (fun _ => .start _) (by decide +kernel)).steps 2
  have hfire : OutermostFire alarmState ⟨0, 0⟩ (.plain 0 "") :=
    ⟨⟨.request, rfl⟩, ⟨true, _, [], rfl, rfl⟩⟩
  have hother : OutermostFire (alarmState.steps alarm.application 15) ⟨1, 0⟩ (.plain 0 "") :=
    ⟨⟨.request, rfl⟩, ⟨true, _, _, rfl, rfl⟩⟩
  have hends : EndsAt alarm.application alarmState (alarmState.steps alarm.application 34) :=
    .of_steps (by decide +kernel) (by decide +kernel)
  have hduring : During alarm.application alarmState (alarmState.steps alarm.application 15) :=
    .of_steps (by decide +kernel)
  obtain ⟨-, -, -, hfires, -⟩ := hs.guard_lifetime ⟨0, 0⟩
  obtain ⟨hempty, hfailed, hgone⟩ := hfires _ hfire
  obtain ⟨-, -, -, hfires', -⟩ := (hs.steps 15).guard_lifetime ⟨1, 0⟩
  obtain ⟨hsome, -, -, -, hunseen⟩ := (hs.steps 14).guard_lifetime ⟨0, 0⟩
  refine ⟨hs, hfire, hother, hends, rfl, hempty, ?_, (hfires' _ hother).1, ?_, hgone _ hends⟩
  · exact (hfailed _ hduring).trans (by decide +kernel)
  · intro failed
    have helsewhere : ∀ k < 17, ((alarmState.steps alarm.application 14).steps alarm.application
        k).scope? ≠ some ⟨0, 0⟩ := by decide +kernel
    refine (hunseen 17 helsewhere).2 failed (hsome.2 ⟨true, .delivered (.plain 0 ""), ?_⟩)
    exact List.mem_of_getElem? (show _[4]? = _ from rfl)

end EventDispatch
