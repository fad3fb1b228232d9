import EventDispatch.Proofs.Machine.Nesting

/-!
# Fires and guards

A scope has a guard as long as a fire of it is on the stack, and the outermost of its fires is the
one that ends the guard (`Reachable.guarded`). An outermost fire therefore begins with an empty
guard (`OutermostFire.guard?_eq`) and keeps a guard as long as it lasts
(`OutermostFire.isSome_guard?`).
-/

set_option autoImplicit false

namespace EventDispatch

variable {ν : Type} {app : Application ν}

/-! ## Fires on the stack -/

/-- For a frame of a fire in a scope, whether the fire counts as outermost. -/
def Frame.fireOf? (sc : Scope) : Frame ν → Option Bool
  | .firing scope outermost _ => if scope = sc then some outermost else none
  | _ => none

/-- The fires of a scope on a stack, innermost first, each with whether it counts as outermost. -/
def firesOf (sc : Scope) (K : List (Frame ν)) : List Bool := K.filterMap (Frame.fireOf? sc)

@[simp] theorem firesOf_firing_self (sc : Scope) (outermost : Bool) (reply : Reply)
    (K : List (Frame ν)) :
    firesOf sc (.firing sc outermost reply :: K) = outermost :: firesOf sc K := by
  simp [firesOf, Frame.fireOf?]

theorem firesOf_firing_of_ne {sc scope : Scope} (hne : sc ≠ scope) (outermost : Bool)
    (reply : Reply) (K : List (Frame ν)) :
    firesOf sc (.firing scope outermost reply :: K) = firesOf sc K := by
  simp [firesOf, Frame.fireOf?, Ne.symm hne]

@[simp] theorem firesOf_append (sc : Scope) (K K₀ : List (Frame ν)) :
    firesOf sc (K ++ K₀) = firesOf sc K ++ firesOf sc K₀ :=
  List.filterMap_append

/-- Below a dispatch there is a fire of its scope. -/
theorem Supports.firesOf_ne_nil {K : List (Frame ν)} {scope : Scope} {event : Event}
    (h : Supports (.dispatch scope event) K) : firesOf scope K ≠ [] := by
  induction K generalizing event with
  | nil => cases h
  | cons frame K ih =>
    cases h with
    | firing => simp
    | reporting h => exact ih h

/-! ## Guards -/

/-- How the guard of a scope goes with the fires of the scope: there is a guard if there is a fire,
and the fire that ends it is the last one on the way down. -/
inductive Guarded : Option (List Nat) → List Bool → Prop
  | idle : Guarded none []
  | busy (failed : List Nat) (n : Nat) : Guarded (some failed) (List.replicate n false ++ [true])

namespace Guarded

variable {guard : Option (List Nat)} {fires : List Bool}

theorem isSome (h : Guarded guard fires) (hfires : fires ≠ []) : guard.isSome = true := by
  cases h with
  | idle => exact absurd rfl hfires
  | busy => rfl

/-- Without fires there is no guard. -/
theorem eq_none (h : Guarded guard []) : guard = none := by
  generalize hfires : ([] : List Bool) = fires at h
  cases h with
  | idle => rfl
  | busy failed n => exact absurd hfires (by simp)

/-- A failure is entered into a guard that is there. -/
theorem addFailure (h : Guarded guard fires) (hfires : fires ≠ []) (i : Nat) :
    Guarded (some (guard.getD [] ++ [i])) fires := by
  cases h with
  | idle => exact absurd rfl hfires
  | busy failed n => exact .busy _ n

/-- A fire that is opened counts as outermost if it finds no guard. -/
theorem enter (h : Guarded guard fires) :
    Guarded (some (guard.getD [])) (guard.isNone :: fires) := by
  cases h with
  | idle => exact .busy [] 0
  | busy failed n => exact .busy failed (n + 1)

/-- A fire that is closed takes the guard with it if it counts as outermost. -/
theorem leave {outermost : Bool} (h : Guarded guard (outermost :: fires)) :
    Guarded (if outermost then none else guard) fires := by
  generalize hall : outermost :: fires = all at h
  cases h with
  | idle => cases hall
  | busy failed n =>
    cases n with
    | zero =>
      cases hall
      exact .idle
    | succ n =>
      cases hall
      exact .busy failed n

end Guarded

namespace World

/-- The guards of a world go with the fires on a stack. -/
def GuardedBy (w : World ν) (K : List (Frame ν)) : Prop :=
  ∀ sc, Guarded (w.guard? sc) (firesOf sc K)

theorem guard?_enter (w : World ν) (scope sc : Scope) :
    (w.enter scope).guard? sc
      = if sc = scope then some ((w.guard? sc).getD []) else w.guard? sc := by
  by_cases hsc : sc = scope
  · subst hsc
    cases hg : w.guard? sc with
    | none => simp [guard?_enter_of_none w sc hg]
    | some g => simp [guard?_enter_of_some w sc hg]
  · rw [if_neg hsc, enter]
    split
    · exact guard?_setGuard_of_ne hsc w []
    · rfl

theorem guard?_leave (w : World ν) (scope sc : Scope) (outermost : Bool) :
    (w.leave scope outermost).guard? sc
      = if sc = scope then (if outermost then none else w.guard? sc) else w.guard? sc := by
  by_cases hsc : sc = scope
  · subst hsc
    cases outermost <;> simp [leave]
  · rw [if_neg hsc, guard?_leave_of_ne hsc]

theorem guard?_addFailure (w : World ν) (scope sc : Scope) (i : Nat) :
    (w.addFailure scope i).guard? sc
      = if sc = scope then some ((w.guard? sc).getD [] ++ [i]) else w.guard? sc := by
  by_cases hsc : sc = scope
  · subst hsc
    simp
  · rw [if_neg hsc, guard?_addFailure_of_ne hsc]

/-! What holds of all numbers in a guard still holds when a fire is opened or closed, and when a
number that it holds of is entered. -/

section Numbers

variable {w : World ν} {P : Nat → Prop} {sc : Scope} (h : ∀ i ∈ (w.guard? sc).getD [], P i)

include h

theorem forall_guard_enter (scope : Scope) : ∀ i ∈ ((w.enter scope).guard? sc).getD [], P i := by
  rw [guard?_enter]
  split
  · exact h
  · exact h

theorem forall_guard_leave (scope : Scope) (outermost : Bool) :
    ∀ i ∈ ((w.leave scope outermost).guard? sc).getD [], P i := by
  rw [guard?_leave]
  split
  · split
    · exact List.forall_mem_nil _
    · exact h
  · exact h

theorem forall_guard_addFailure (scope : Scope) {n : Nat} (hn : P n) :
    ∀ i ∈ ((w.addFailure scope n).guard? sc).getD [], P i := by
  rw [guard?_addFailure]
  split
  · exact List.forall_mem_append.2 ⟨h, List.forall_mem_singleton.2 hn⟩
  · exact h

end Numbers

namespace GuardedBy

variable {w : World ν} {K : List (Frame ν)} {scope : Scope}

theorem opened (h : w.GuardedBy K) (scope : Scope) (reply : Reply) :
    (w.enter scope).GuardedBy (.firing scope (w.guard? scope).isNone reply :: K) := by
  intro sc
  rw [guard?_enter]
  by_cases hsc : sc = scope
  · subst hsc
    rw [if_pos rfl, firesOf_firing_self]
    exact (h sc).enter
  · rw [if_neg hsc, firesOf_firing_of_ne hsc]
    exact h sc

theorem closed {outermost : Bool} {reply : Reply}
    (h : w.GuardedBy (.firing scope outermost reply :: K)) :
    (w.leave scope outermost).GuardedBy K := by
  intro sc
  have hsc' := h sc
  rw [guard?_leave]
  by_cases hsc : sc = scope
  · subst hsc
    rw [firesOf_firing_self] at hsc'
    rw [if_pos rfl]
    exact hsc'.leave
  · rw [firesOf_firing_of_ne hsc] at hsc'
    rw [if_neg hsc]
    exact hsc'

theorem failed {event : Event} (h : w.GuardedBy K) (hsupports : Supports (.dispatch scope event) K)
    (i : Nat) : (w.addFailure scope i).GuardedBy K := by
  intro sc
  rw [guard?_addFailure]
  by_cases hsc : sc = scope
  · subst hsc
    rw [if_pos rfl]
    exact (h sc).addFailure hsupports.firesOf_ne_nil i
  · rw [if_neg hsc]
    exact h sc

end GuardedBy

end World

theorem Move.guarded {s t : State ν} (h : Move app s t) (hnested : Nested app s)
    (hs : s.world.GuardedBy s.stack) : t.world.GuardedBy t.stack := by
  obtain ⟨place, hplace, hsupports⟩ := hnested
  cases h with
  | joined w scope operation o type fs K =>
    have hjoin : (w.join scope o type fs).GuardedBy K := hs
    exact hjoin.opened scope (.flag true)
  | parted w scope operation o member fs K =>
    have hpart : (w.part scope o fs).GuardedBy K := hs
    exact hpart.opened scope (.flag true)
  | fire w scope event K => exact hs.opened scope (.delivered event)
  | close => exact hs.closed
  | abandon => exact hs.closed
  | dispatch w scope origin event K =>
    intro sc
    rw [World.guard?_launch]
    exact hs sc
  | undeliverable w scope delivery b failure rest K =>
    cases hplace
    have hrecord : (w.record scope (.failed delivery b failure)).GuardedBy K := hs
    exact hrecord.failed hsupports b.id
  | unreported w scope delivery b failure rest K =>
    cases hplace
    have hrecord : (w.record scope (.failed delivery b failure)).GuardedBy K := hs
    exact hrecord.failed hsupports b.id
  | report w scope delivery b failure rest K =>
    cases hplace
    have hrecord : (w.record scope (.failed delivery b failure)).GuardedBy K := hs
    exact hrecord.failed hsupports b.id
  | _ => exact hs

theorem Reachable.guarded {s : State ν} (hs : Reachable app s) : s.world.GuardedBy s.stack := by
  apply hs.induction (P := fun s => s.world.GuardedBy s.stack)
  · intro _ _
    exact .idle
  · intro s t hs hmove h
    exact hmove.guarded hs.nested h
  · intro s r command _ hr h
    rw [State.stack_of_result hr] at h
    exact h

/-! ## Outermost fires -/

/-- In the state `s` the event of a fire in `sc` is about to be dispatched, and there is no other
fire of the scope on the stack. -/
structure OutermostFire (s : State ν) (sc : Scope) (event : Event) : Prop where
  control : ∃ origin, s.control = .dispatch sc origin event
  stack : ∃ outermost reply K, s.stack = .firing sc outermost reply :: K ∧ firesOf sc K = []

/-- A fire that counts as outermost begins with an empty guard, and not for a report. -/
theorem Move.opens {s t : State ν} (h : Move app s t) {sc : Scope} {origin : Origin} {event : Event}
    (hcontrol : t.control = .dispatch sc origin event) {outermost : Bool} {reply : Reply}
    {K : List (Frame ν)} (hstack : t.stack = .firing sc outermost reply :: K) :
    (outermost = true → t.world.guard? sc = some []) ∧ ∀ i, origin ≠ .report i := by
  cases h with
  | joined w scope operation o type fs K =>
    cases hcontrol
    cases hstack
    constructor
    · intro hnone
      exact World.guard?_enter_of_none _ _ (Option.isNone_iff_eq_none.1 hnone)
    · simp
  | parted w scope operation o member fs K =>
    cases hcontrol
    cases hstack
    constructor
    · intro hnone
      exact World.guard?_enter_of_none _ _ (Option.isNone_iff_eq_none.1 hnone)
    · simp
  | fire w scope event K =>
    cases hcontrol
    cases hstack
    constructor
    · intro hnone
      exact World.guard?_enter_of_none _ _ (Option.isNone_iff_eq_none.1 hnone)
    · simp
  | report => cases hstack
  | rest w control K hended =>
    rw [show control = .dispatch sc origin event from hcontrol] at hended
    cases hended
  | _ => cases hcontrol

theorem Reachable.opens {s : State ν} (hs : Reachable app s) {sc : Scope} {origin : Origin}
    {event : Event} (hcontrol : s.control = .dispatch sc origin event) {outermost : Bool}
    {reply : Reply} {K : List (Frame ν)} (hstack : s.stack = .firing sc outermost reply :: K) :
    (outermost = true → s.world.guard? sc = some []) ∧ ∀ i, origin ≠ .report i := by
  cases hs with
  | start => cases hcontrol
  | @step s hs => exact (s.move_step app).opens hcontrol hstack
  | next => cases hcontrol

namespace OutermostFire

variable {s : State ν} {sc : Scope} {event : Event}

/-- An outermost fire begins with an empty guard. -/
theorem guard?_eq (h : OutermostFire s sc event) (hs : Reachable app s) :
    s.world.guard? sc = some [] := by
  obtain ⟨origin, hcontrol⟩ := h.control
  obtain ⟨outermost, reply, K, hstack, hK⟩ := h.stack
  apply (hs.opens hcontrol hstack).1
  -- The fire is the only one of its scope on the stack, so it is the one that ends the guard.
  have hguarded := hs.guarded sc
  rw [hstack, firesOf_firing_self, hK] at hguarded
  generalize s.world.guard? sc = guard, hfires : [outermost] = fires at hguarded
  cases hguarded with
  | idle => cases hfires
  | busy failed n =>
    cases n with
    | zero => exact (List.cons.inj hfires).1
    | succ n => simp [List.replicate_succ] at hfires

/-- As long as a fire lasts its scope has a guard. -/
theorem isSome_guard? (h : OutermostFire s sc event) (hs : Reachable app s) {t : State ν}
    (ht : During app s t) : (t.world.guard? sc).isSome = true := by
  obtain ⟨outermost, reply, K₀, hstack, -⟩ := h.stack
  obtain ⟨K, hK⟩ := ht.exists_stack
  refine ((ht.reachable hs).guarded sc).isSome ?_
  rw [hK, hstack, firesOf_append, firesOf_firing_self]
  simp

end OutermostFire

end EventDispatch
