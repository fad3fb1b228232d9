import EventDispatch.Proofs.Machine.Nesting

/-!
# Runs that end

A run ends above the frames of a state if it comes to an outcome with no other frames on the stack
(`State.Ends`). Whether it does is put together from the steps: a step that leaves the stack alone,
and a frame that is put on the stack, whose run ends, and that is taken off again by the outcome
(`State.Ends.of_step`, `State.Ends.of_push`). What a frame does with an outcome is said by one lemma
for each kind of frame; nesting excludes outcomes that the frame does not take.
-/

set_option autoImplicit false

namespace EventDispatch

variable {ν : Type} {app : Application ν}

theorem During.length_le {s t : State ν} (h : During app s t) :
    s.stack.length ≤ t.stack.length := by
  obtain ⟨K, hK⟩ := h.exists_stack
  simp [hK]

/-- The run from `t` comes to an outcome with the frames of `t` on the stack and no others. -/
def State.Ends (app : Application ν) (t : State ν) : Prop :=
  ∃ u, During app t u ∧ u.stack = t.stack ∧ u.control.isOutcome = true

namespace State.Ends

variable {t : State ν}

theorem of_outcome (h : t.control.isOutcome = true) : t.Ends app :=
  ⟨t, .refl, rfl, h⟩

/-- A run ends if it ends after a step that leaves the stack alone. -/
theorem of_step (hstack : (t.step app).stack = t.stack)
    (h : During app t (t.step app) → (t.step app).Ends app) : t.Ends app := by
  have hstep : During app t (t.step app) := During.refl.step (Nat.le_of_eq (by rw [hstack]))
  obtain ⟨u, hu, hstacku, houtcome⟩ := h hstep
  exact ⟨u, hstep.trans hu, hstacku.trans hstack, houtcome⟩

/-- A run ends if it ends above a frame that a step puts on the stack, and again after the outcome
has taken the frame off. -/
theorem of_push {frame : Frame ν} (hstack : (t.step app).stack = frame :: t.stack)
    (h : During app t (t.step app) → (t.step app).Ends app)
    (hpop : ∀ u, During app t u → u.stack = frame :: t.stack → u.control.isOutcome = true →
      (u.step app).stack = t.stack ∧ (During app t (u.step app) → (u.step app).Ends app)) :
    t.Ends app := by
  have hstep : During app t (t.step app) := During.refl.step (by rw [hstack]; simp)
  obtain ⟨u, hu, hstacku, houtcome⟩ := h hstep
  have htu := hstep.trans hu
  obtain ⟨hstackpop, hrest⟩ := hpop u htu (hstacku.trans hstack) houtcome
  have htpop : During app t (u.step app) := htu.step (Nat.le_of_eq (by rw [hstackpop]))
  obtain ⟨v, hv, hstackv, houtcomev⟩ := hrest htpop
  exact ⟨v, htpop.trans hv, hstackv.trans hstackpop, houtcomev⟩

end State.Ends

/-! ## What frames do with outcomes -/

namespace Control.StandsAt

variable {control : Control ν} (houtcome : control.isOutcome = true)

include houtcome

/-- An operation ends with a reply, or with a panic. -/
theorem of_operation {thread : ThreadId} (h : control.StandsAt app (.operation thread)) :
    (∃ reply, control = .answered reply) ∨ ∃ payload, control = .unwinding payload := by
  cases h with
  | answered => exact .inl ⟨_, rfl⟩
  | unwinding => exact .inr ⟨_, rfl⟩
  | _ => cases houtcome

/-- A dispatch is completed, or it ends with a panic. -/
theorem of_dispatch {scope : Scope} {event : Event}
    (h : control.StandsAt app (.dispatch scope event)) :
    control = .completed ∨ ∃ payload, control = .unwinding payload := by
  cases h with
  | completed => exact .inl rfl
  | unwinding => exact .inr ⟨_, rfl⟩
  | _ => cases houtcome

/-- A handler returns, or it panics. -/
theorem of_handler {scope : Scope} {delivery : Delivery}
    (h : control.StandsAt app (.handler scope delivery)) :
    (∃ result, control = .returned result) ∨ ∃ payload, control = .unwinding payload := by
  cases h with
  | returned => exact .inl ⟨_, rfl⟩
  | unwinding => exact .inr ⟨_, rfl⟩
  | _ => cases houtcome

end Control.StandsAt

section Outcomes

variable {u : State ν} {K : List (Frame ν)} (hu : Nested app u)
  (houtcome : u.control.isOutcome = true)

include hu houtcome

theorem Nested.step_of_firing {scope : Scope} {outermost : Bool} {reply : Reply}
    (hstack : u.stack = .firing scope outermost reply :: K) :
    (u.step app).stack = K ∧ (u.step app).control.isOutcome = true := by
  obtain ⟨w, control, stack⟩ := u
  obtain ⟨place, hplace, hsupports⟩ := hu
  subst hstack
  cases hsupports
  rcases hplace.of_dispatch houtcome with rfl | ⟨payload, rfl⟩
  · exact ⟨rfl, rfl⟩
  · exact ⟨rfl, rfl⟩

theorem Nested.step_of_contained (hstack : u.stack = .contained :: K) :
    (u.step app).stack = K ∧ (u.step app).control.isOutcome = true := by
  obtain ⟨w, control, stack⟩ := u
  obtain ⟨place, hplace, hsupports⟩ := hu
  subst hstack
  cases hsupports
  rcases hplace.of_operation houtcome with ⟨reply, rfl⟩ | ⟨payload, rfl⟩
  · exact ⟨rfl, rfl⟩
  · exact ⟨rfl, rfl⟩

theorem Nested.step_of_body {scope : Scope} {next : Reply → Program ν}
    (hstack : u.stack = .body scope next :: K) :
    (u.step app).stack = K ∧ ((u.step app).control.isOutcome = true ∨
      ∃ reply, (u.step app).control = .run scope (next reply)) := by
  obtain ⟨w, control, stack⟩ := u
  obtain ⟨place, hplace, hsupports⟩ := hu
  subst hstack
  cases hsupports
  rcases hplace.of_operation houtcome with ⟨reply, rfl⟩ | ⟨payload, rfl⟩
  · exact ⟨rfl, .inr ⟨reply, rfl⟩⟩
  · exact ⟨rfl, .inl rfl⟩

theorem Nested.step_of_reporting {scope : Scope} {delivery : Delivery} {b : BoundHandler}
    {failure : Failure} {rest : List BoundHandler}
    (hstack : u.stack = .reporting scope delivery b failure rest :: K) :
    (u.step app).stack = K ∧ ((u.step app).control.isOutcome = true ∨
      (u.step app).control = .deliver scope delivery rest) := by
  obtain ⟨w, control, stack⟩ := u
  obtain ⟨place, hplace, hsupports⟩ := hu
  subst hstack
  cases hsupports
  rcases hplace.of_dispatch houtcome with rfl | ⟨payload, rfl⟩
  · exact ⟨rfl, .inr rfl⟩
  · exact ⟨rfl, .inl rfl⟩

theorem Nested.step_of_attempt {scope : Scope} {delivery : Delivery} {b : BoundHandler}
    {rest : List BoundHandler} (hstack : u.stack = .attempt scope delivery b rest :: K) :
    (u.step app).stack = K ∧ ((u.step app).control.isOutcome = true ∨
      (u.step app).control = .deliver scope delivery rest ∨
      ∃ failure, (u.step app).control = .fail scope delivery b failure rest) := by
  obtain ⟨w, control, stack⟩ := u
  obtain ⟨place, hplace, hsupports⟩ := hu
  subst hstack
  cases hsupports
  rcases hplace.of_handler houtcome with ⟨result, rfl⟩ | ⟨payload, rfl⟩
  · cases result with
    | ok => exact ⟨rfl, .inr (.inl rfl)⟩
    | error e => exact ⟨rfl, .inr (.inr ⟨_, rfl⟩)⟩
  · simp only [State.step, State.unwinding]
    split
    · exact ⟨rfl, .inr (.inr ⟨_, rfl⟩)⟩
    · exact ⟨rfl, .inl rfl⟩

end Outcomes

/-- The end of a fire is the reply to its operation, unless it is a panic. -/
theorem Move.answered_of_firing {s t : State ν} (h : Move app s t) {scope : Scope}
    {outermost : Bool} {reply : Reply}
    (hstack : s.stack = .firing scope outermost reply :: t.stack) :
    t.control = .answered reply ∨ ∃ payload, s.control = .unwinding payload := by
  have houtcome : s.control.isOutcome = true := by
    apply h.isOutcome_of_pops
    rw [hstack]
    exact Nat.lt_succ_self _
  cases h with
  | close =>
    cases hstack
    exact .inl rfl
  | abandon => exact .inr ⟨_, rfl⟩
  | succeeded | failed | reported | resume | uncaught | wait => cases hstack
  | panicked | escape | abandonReport | contain | unwindBody | unwindThread => cases hstack
  | rest => exact absurd hstack.symm (List.cons_ne_self _ _)
  | _ => cases houtcome

/-- A run that ends above the frame of a fire takes the frame off. -/
theorem State.Ends.exists_endsAt {s : State ν} (h : s.Ends app) (hs : Reachable app s)
    {scope : Scope} {outermost : Bool} {reply : Reply} {K : List (Frame ν)}
    (hstack : s.stack = .firing scope outermost reply :: K) : ∃ t, EndsAt app s t := by
  obtain ⟨t, ht, hstackt, houtcome⟩ := h
  have hpop := (ht.reachable hs).nested.step_of_firing houtcome (hstackt.trans hstack)
  refine ⟨t, ht, ?_⟩
  rw [hpop.1, hstack]
  simp

end EventDispatch
