import EventDispatch.Proofs.Failure.Guard
import EventDispatch.Proofs.Machine.Scopes

/-!
# Guards of other scopes

A step that acts in another scope leaves the guard of a scope alone (`Move.guard?_eq`) and does the
same whatever that guard holds (`State.step_withGuard`). What a fire does to its guard therefore
does not show on other threads nor in fires of other managers, and they do nothing to it
(`State.guard?_steps`, `State.steps_withGuard`).
-/

set_option autoImplicit false

namespace EventDispatch

variable {ν : Type} {app : Application ν}

/-- The state in which the guard of a scope holds other handlers. -/
def State.withGuard (s : State ν) (sc : Scope) (failed : List Nat) : State ν :=
  { s with world := s.world.setGuard sc failed }

/-! ## The world -/

namespace World

variable (app : Application ν) (w : World ν) {sc scope : Scope} (failed : List Nat)

theorem manager_setGuard (m : ManagerId) : (w.setGuard sc failed).manager m = w.manager m := rfl

/-- The same outcome in a world in which the guard of a scope holds other handlers. -/
def Change.withGuard (r : Change × World ν) (sc : Scope) (failed : List Nat) : Change × World ν :=
  (r.1, r.2.setGuard sc failed)

theorem register_setGuard (o : ObjectId) (type : ObserverType) :
    (w.setGuard sc failed).register app scope o type
      = Change.withGuard (w.register app scope o type) sc failed := by
  unfold register
  rcases app.check scope.manager type with _ | refusal | -
  · rfl
  · by_cases hignored : refusal.isNotAnObserver = true
    · simp only [if_pos hignored]
      rfl
    · simp only [if_neg hignored]
      rfl
  · show (if (w.manager scope.manager).registry.holds o = true then _ else _)
      = Change.withGuard (if (w.manager scope.manager).registry.holds o = true then _ else _) sc
          failed
    by_cases hholds : (w.manager scope.manager).registry.holds o = true
    · rw [if_pos hholds, if_pos hholds]
      rfl
    · rw [if_neg hholds, if_neg hholds]
      rfl

theorem add_setGuard (o : ObjectId) :
    (w.setGuard sc failed).add app scope o = Change.withGuard (w.add app scope o) sc failed := by
  unfold add
  cases app.observerType? o with
  | none => rfl
  | some type => exact register_setGuard app w failed o type

theorem addComponent_setGuard (o : ObjectId) :
    (w.setGuard sc failed).addComponent app scope o
      = Change.withGuard (w.addComponent app scope o) sc failed := by
  unfold addComponent
  cases (app.observerType? o).filter (·.announced) with
  | none => rfl
  | some type => exact register_setGuard app (w.record scope (.described type.name)) failed o type

theorem remove_setGuard (o : ObjectId) :
    (w.setGuard sc failed).remove scope o = Change.withGuard (w.remove scope o) sc failed := by
  simp only [remove, manager_setGuard]
  cases (w.manager scope.manager).registry.member? o <;> rfl

theorem resolve_setGuard (t : EventType) :
    (w.setGuard sc failed).resolve app scope t
      = ((w.resolve app scope t).1, (w.resolve app scope t).2.setGuard sc failed) := by
  simp only [resolve, manager_setGuard]
  cases (w.manager scope.manager).cache.find? t with
  | some plan => rfl
  | none =>
    by_cases hexceeds : app.hierarchy.exceeds (app.maxDepth scope.manager) t = true
    · simp only [if_pos hexceeds]
      rfl
    · simp only [if_neg hexceeds]
      rfl

theorem setGuard_comm {w : World ν} (hne : sc ≠ scope) (hw : (w.guard? sc).isSome = true)
    (failed failed' : List Nat) :
    (w.setGuard sc failed).setGuard scope failed'
      = (w.setGuard scope failed').setGuard sc failed := by
  have hguards := Assoc.insert_comm hne failed failed' hw
  simp only [setGuard, hguards]

theorem dropGuard_setGuard (hne : sc ≠ scope) :
    (w.setGuard sc failed).dropGuard scope = (w.dropGuard scope).setGuard sc failed := by
  have hguards := Assoc.erase_insert hne failed w.guards
  simp only [setGuard, dropGuard, hguards]

theorem hasFailed_setGuard (hne : sc ≠ scope) (i : Nat) :
    (w.setGuard sc failed).hasFailed scope i = w.hasFailed scope i := by
  rw [hasFailed, guard?_setGuard_of_ne (Ne.symm hne), hasFailed]

theorem addFailure_setGuard {w : World ν} (hne : sc ≠ scope) (hw : (w.guard? sc).isSome = true)
    (failed : List Nat) (i : Nat) :
    (w.setGuard sc failed).addFailure scope i = (w.addFailure scope i).setGuard sc failed := by
  rw [addFailure, guard?_setGuard_of_ne (Ne.symm hne), setGuard_comm hne hw, addFailure]

theorem Registers.guard?_eq {w : World ν} {o : ObjectId} {r : Change × World ν}
    (h : w.Registers app scope o r) (sc : Scope) : r.2.guard? sc = w.guard? sc := by
  cases h <;> rfl

theorem Removes.guard?_eq {w : World ν} {o : ObjectId} {r : Change × World ν}
    (h : w.Removes scope o r) (sc : Scope) : r.2.guard? sc = w.guard? sc := by
  cases h <;> rfl

end World

/-! ## One step -/

/-- A step that acts in another scope leaves a guard alone. -/
theorem Move.guard?_eq {s t : State ν} (h : Move app s t) {sc : Scope}
    (hscope : s.scope? ≠ some sc) : t.world.guard? sc = s.world.guard? sc := by
  have hne {scope : Scope} (hs : s.scope? = some scope) : sc ≠ scope := by
    rintro rfl
    exact hscope hs
  -- Fires that are opened and closed and failures that are entered belong to the scope of the step.
  cases h with
  | joined => rw [World.guard?_enter, if_neg (hne rfl), World.guard?_join]
  | parted => rw [World.guard?_enter, if_neg (hne rfl), World.guard?_part]
  | fire => rw [World.guard?_enter, if_neg (hne rfl)]
  | dispatch => exact World.guard?_launch ..
  | undeliverable | unreported =>
    rw [World.guard?_record, World.guard?_addFailure, if_neg (hne rfl), World.guard?_record]
  | report => rw [World.guard?_addFailure, if_neg (hne rfl), World.guard?_record]
  | close | abandon => rw [World.guard?_leave, if_neg (hne rfl)]
  | _ => rfl

namespace State

section Step

variable {s : State ν} {sc scope : Scope} (hne : sc ≠ scope)
  (hs : (s.world.guard? sc).isSome = true) (failed : List Nat)

include hne hs

theorem fire_withGuard (origin : Origin) (event : Event) (reply : Reply) :
    (s.withGuard sc failed).fire scope origin event reply
      = (s.fire scope origin event reply).withGuard sc failed := by
  have hguard : (s.world.setGuard sc failed).guard? scope = s.world.guard? scope :=
    World.guard?_setGuard_of_ne (Ne.symm hne) _ _
  simp only [fire, withGuard, hguard]
  split
  · rw [World.setGuard_comm hne hs]
  · rfl

omit hs in
theorem conclude_withGuard (announce : String → Event) {r : World.Change × World ν}
    (hr : (r.2.guard? sc).isSome = true) :
    (s.withGuard sc failed).conclude scope announce (World.Change.withGuard r sc failed)
      = (s.conclude scope announce r).withGuard sc failed := by
  obtain ⟨change, w⟩ := r
  cases change with
  | none | refused | undecided => rfl
  | made observerType =>
    have hw : (({ s with world := w } : State ν).world.guard? sc).isSome = true := hr
    exact fire_withGuard hne hw failed .membership (announce observerType) (.flag true)

theorem perform_withGuard (operation : Operation) :
    (s.withGuard sc failed).perform app scope operation
      = (s.perform app scope operation).withGuard sc failed := by
  cases operation with
  | add o =>
    have hr := (s.world.registers_add app scope o).guard?_eq app sc
    show (s.withGuard sc failed).conclude scope _ ((s.world.setGuard sc failed).add app scope o) = _
    rw [World.add_setGuard]
    exact conclude_withGuard hne failed _ (by rwa [hr])
  | addComponent o =>
    have hr := (s.world.registers_addComponent app scope o).guard?_eq app sc
    show (s.withGuard sc failed).conclude scope _
      ((s.world.setGuard sc failed).addComponent app scope o) = _
    rw [World.addComponent_setGuard]
    exact conclude_withGuard hne failed _ (by rwa [hr])
  | remove o | removeComponent o =>
    have hr := (s.world.removes_remove scope o).guard?_eq sc
    show (s.withGuard sc failed).conclude scope _ ((s.world.setGuard sc failed).remove scope o) = _
    rw [World.remove_setGuard]
    exact conclude_withGuard hne failed _ (by rwa [hr])
  | fire event => exact fire_withGuard hne hs failed _ _ _
  | isRegistered | status => rfl

theorem fail_withGuard (delivery : Delivery) (b : BoundHandler) (failure : Failure)
    (rest : List BoundHandler) :
    (s.withGuard sc failed).fail app scope delivery b failure rest
      = (s.fail app scope delivery b failure rest).withGuard sc failed := by
  have hrecord : ((s.world.setGuard sc failed).record scope (.failed delivery b failure))
      = (s.world.record scope (.failed delivery b failure)).setGuard sc failed := rfl
  have hadd := World.addFailure_setGuard
    (w := s.world.record scope (.failed delivery b failure)) hne hs failed b.id
  simp only [fail, withGuard, hrecord, World.hasFailed_setGuard _ _ hne, hadd]
  split
  · rfl
  · split
    · rfl
    · split <;> rfl

end Step

variable {s : State ν} {sc : Scope}

/-- A step that acts in another scope is the same whatever the guard holds. -/
theorem step_withGuard (hscope : s.scope? ≠ some sc) (hs : (s.world.guard? sc).isSome = true)
    (failed : List Nat) :
    (s.withGuard sc failed).step app = (s.step app).withGuard sc failed := by
  obtain ⟨w, control, K⟩ := s
  have hne {scope : Scope} (h : scope? ⟨w, control, K⟩ = some scope) : sc ≠ scope := by
    rintro rfl
    exact hscope h
  -- Guards are looked up only where a fire is opened or a failure is dealt with, and dropped only
  -- where a fire ends; in the other cases both sides compute to the same state.
  cases control with
  | run scope program => cases program <;> rfl
  | issue thread command =>
    obtain ⟨m, operation, mode⟩ := command
    cases mode <;> rfl
  | perform scope operation => exact perform_withGuard (hne rfl) hs failed operation
  | dispatch scope origin event =>
    show (State.withGuard ⟨w, .dispatch scope origin event, K⟩ sc failed).dispatch app scope origin
      event = _
    simp only [dispatch, withGuard, World.resolve_setGuard]
    rfl
  | deliver scope delivery handlers =>
    cases handlers with
    | nil => rfl
    | cons b rest =>
      simp only [step, deliver, withGuard]
      cases delivery.event.part? (app.maxDepth scope.manager) b.eventType <;> rfl
  | fail scope delivery b failure rest => exact fail_withGuard (hne rfl) hs failed _ _ _ _
  | returned result =>
    cases K with
    | nil => rfl
    | cons frame K => cases frame <;> cases result <;> rfl
  | completed =>
    cases K with
    | nil => rfl
    | cons frame K =>
      cases frame with
      | firing scope outermost reply =>
        cases outermost with
        | false => rfl
        | true =>
          simp only [step, completed, withGuard, if_true, World.dropGuard_setGuard _ _ (hne rfl)]
      | _ => rfl
  | answered reply =>
    cases K with
    | nil => rfl
    | cons frame K => cases frame <;> rfl
  | unwinding payload =>
    cases K with
    | nil => rfl
    | cons frame K =>
      cases frame with
      | attempt scope delivery b rest =>
        simp only [step, unwinding, withGuard]
        split <;> rfl
      | firing scope outermost reply =>
        cases outermost with
        | false => rfl
        | true =>
          simp only [step, unwinding, withGuard, if_true, World.dropGuard_setGuard _ _ (hne rfl)]
      | _ => rfl
  | stuck => rfl

/-! ## A run -/

/-- A run whose steps all act in other scopes leaves a guard alone. -/
theorem guard?_steps {n : Nat} (h : ∀ k < n, (s.steps app k).scope? ≠ some sc) :
    (s.steps app n).world.guard? sc = s.world.guard? sc := by
  induction n with
  | zero => rfl
  | succ n ih =>
    have hlast := ((s.steps app n).move_step app).guard?_eq (h n (Nat.lt_succ_self n))
    rw [steps_add, steps_succ, steps_zero, hlast]
    exact ih fun k hk => h k (Nat.lt_succ_of_lt hk)

/-- A run whose steps all act in other scopes is the same whatever the guard holds. -/
theorem steps_withGuard {n : Nat} (h : ∀ k < n, (s.steps app k).scope? ≠ some sc)
    (hs : (s.world.guard? sc).isSome = true) (failed : List Nat) :
    (s.withGuard sc failed).steps app n = (s.steps app n).withGuard sc failed := by
  induction n with
  | zero => rfl
  | succ n ih =>
    have hbefore : ∀ k < n, (s.steps app k).scope? ≠ some sc :=
      fun k hk => h k (Nat.lt_succ_of_lt hk)
    have hguard : ((s.steps app n).world.guard? sc).isSome = true := by
      rwa [guard?_steps hbefore]
    rw [steps_add, steps_succ, steps_zero, ih hbefore,
      step_withGuard (h n (Nat.lt_succ_self n)) hguard, steps_add, steps_succ, steps_zero]

end State

end EventDispatch
