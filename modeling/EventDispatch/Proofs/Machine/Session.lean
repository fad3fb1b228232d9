import EventDispatch.Proofs.Machine.Ending

/-!
# Parts of a session

A run above some frames is put together from runs above more frames: from the step that puts a frame
on the stack, through the run above that frame, to the step that takes it off
(`During.cases_of_push`), and a frame that is found on the stack has been put there by a step of the
run (`During.exists_push`). A session goes on from a state by steps and by further commands;
`Continues app P s t` says so of a session that has `P` all the way from `s` to `t`.
-/

set_option autoImplicit false

namespace EventDispatch

variable {ν : Type} {app : Application ν}

/-! ## Runs within a run -/

/-- An outcome stays until it takes a frame off. -/
theorem During.eq_of_isOutcome {s t : State ν} (h : During app s t)
    (houtcome : s.control.isOutcome = true) : t = s := by
  induction h with
  | refl => rfl
  | @step t _ hlength ih =>
    rw [ih] at hlength ⊢
    rcases (s.move_step app).pops_of_outcome houtcome with heq | ⟨frame, hpop⟩
    · exact heq
    · rw [hpop] at hlength
      exact absurd hlength (by simp)

/-- An operation that comes to no end stays as it is. -/
theorem During.eq_of_stuck {s t : State ν} (h : During app s t) (hstuck : s.control = .stuck) :
    t = s := by
  induction h with
  | refl => rfl
  | step _ _ ih => rw [ih, State.step, hstuck]

/-- The step that ends a run takes off the topmost frame of its start, and no other. -/
theorem EndsAt.stack_step {s t : State ν} (h : EndsAt app s t) {frame : Frame ν}
    {K : List (Frame ν)} (hstack : s.stack = frame :: K) : (t.step app).stack = K := by
  have hlength := h.2
  rcases (t.move_step app).stack_cases with heq | ⟨top, heq⟩ | ⟨top, heq⟩
  · rw [heq, h.stack_eq] at hlength
    exact absurd hlength (Nat.lt_irrefl _)
  · rw [heq, h.stack_eq, List.length_cons] at hlength
    omega
  · rw [h.stack_eq, hstack] at heq
    exact (List.cons.inj heq).2.symm

/-- A run whose first step leaves the stack alone is still there or goes on after the step. -/
theorem During.cases_of_same {s t : State ν} (h : During app s t)
    (hsame : (s.step app).stack = s.stack) : t = s ∨ During app (s.step app) t := by
  induction h with
  | refl => exact .inl rfl
  | @step t _ hlength ih =>
    rcases ih with rfl | hafter
    · exact .inr .refl
    · exact .inr (hafter.step (by rwa [hsame]))

/-- A run that starts by putting a frame on the stack is still there, or has got above the frame, or
has gone through the run above the frame and taken it off. -/
theorem During.cases_of_push {s t : State ν} (h : During app s t) {frame : Frame ν}
    (hpush : (s.step app).stack = frame :: s.stack) :
    t = s ∨ During app (s.step app) t ∨
      ∃ u, EndsAt app (s.step app) u ∧ During app (u.step app) t := by
  induction h with
  | refl => exact .inl rfl
  | @step t _ hlength ih =>
    rcases ih with rfl | habove | ⟨u, hu, hafter⟩
    · exact .inr (.inl .refl)
    · by_cases hpop : (s.step app).stack.length ≤ (t.step app).stack.length
      · exact .inr (.inl (habove.step hpop))
      · exact .inr (.inr ⟨t, ⟨habove, Nat.lt_of_not_le hpop⟩, .refl⟩)
    · refine .inr (.inr ⟨u, hu, hafter.step ?_⟩)
      rwa [hu.stack_step hpush]

/-- A frame above those of the start has been put there by a step of the run, and has been there
since. -/
theorem During.exists_push {s u : State ν} (h : During app s u) {above below : List (Frame ν)}
    {frame : Frame ν} (hstack : u.stack = above ++ frame :: below)
    (hbelow : s.stack.length ≤ below.length) :
    ∃ r, During app s r ∧ r.stack = below ∧ (r.step app).stack = frame :: below ∧
      During app (r.step app) u := by
  have hlow (above : List (Frame ν)) :
      (frame :: below).length ≤ (above ++ frame :: below).length := by
    simp
  induction h generalizing above with
  | refl =>
    have hlength := congrArg List.length hstack
    simp at hlength
    omega
  | @step t hd _ ih =>
    rcases (t.move_step app).stack_cases with heq | ⟨top, heq⟩ | ⟨top, heq⟩
    · obtain ⟨r, hr, hstackr, hpush, hafter⟩ := ih (heq ▸ hstack)
      refine ⟨r, hr, hstackr, hpush, hafter.step ?_⟩
      rw [hpush, hstack]
      exact hlow above
    · -- The frame that is put on now is the one that is looked for, or comes above it.
      rw [heq] at hstack
      cases above with
      | nil =>
        obtain ⟨rfl, hbase⟩ := List.cons.inj hstack
        exact ⟨t, hd, hbase, by rw [heq, hbase], .refl⟩
      | cons first above =>
        obtain ⟨-, hunder⟩ := List.cons.inj hstack
        obtain ⟨r, hr, hstackr, hpush, hafter⟩ := ih hunder
        refine ⟨r, hr, hstackr, hpush, hafter.step ?_⟩
        rw [hpush, heq, hunder]
        exact hlow (top :: above)
    · rw [hstack, ← List.cons_append] at heq
      obtain ⟨r, hr, hstackr, hpush, hafter⟩ := ih heq
      refine ⟨r, hr, hstackr, hpush, hafter.step ?_⟩
      rw [hpush, hstack]
      exact hlow above

/-- Every state of a session is one of the run of its last command. -/
theorem Reachable.exists_start {s : State ν} (hs : Reachable app s) :
    ∃ w command, Reachable app (.start w command) ∧ During app (.start w command) s := by
  induction hs with
  | start command => exact ⟨_, command, .start command, .refl⟩
  | @step s _ ih =>
    obtain ⟨w, command, hstart, hs⟩ := ih
    exact ⟨w, command, hstart, hs.step (Nat.zero_le _)⟩
  | next command hs hr => exact ⟨_, command, hs.next command hr, .refl⟩

/-! ## How a session goes on -/

/-- The session has gone on from `s` to `t` by steps and further commands, and has had `P` from `s`
to `t`. -/
inductive Continues (app : Application ν) (P : State ν → Prop) (s : State ν) : State ν → Prop
  | refl : P s → Continues app P s s
  | step {t : State ν} : Continues app P s t → P (t.step app) → Continues app P s (t.step app)
  | next {t : State ν} {r : Except Payload Reply} (command : Command) : Continues app P s t →
      t.result? = some r → P (.start t.world command) →
      Continues app P s (.start t.world command)

namespace Continues

variable {P : State ν → Prop} {s t u : State ν}

theorem holds (h : Continues app P s t) : P t := by
  cases h with
  | refl hs => exact hs
  | step _ ht => exact ht
  | next _ _ _ ht => exact ht

theorem holds_start (h : Continues app P s t) : P s := by
  induction h with
  | refl hs => exact hs
  | step _ _ ih => exact ih
  | next _ _ _ _ ih => exact ih

theorem trans (h : Continues app P s t) (h' : Continues app P t u) : Continues app P s u := by
  induction h' with
  | refl => exact h
  | step _ hu ih => exact ih.step hu
  | next command _ hr hu ih => exact ih.next command hr hu

theorem mono {P' : State ν → Prop} (himp : ∀ u, P u → P' u) (h : Continues app P s t) :
    Continues app P' s t := by
  induction h with
  | refl hs => exact .refl (himp s hs)
  | step _ ht ih => exact ih.step (himp _ ht)
  | next command _ hr ht ih => exact ih.next command hr (himp _ ht)

theorem reachable (hs : Reachable app s) (h : Continues app P s t) : Reachable app t := by
  induction h with
  | refl => exact hs
  | step _ _ ih => exact ih.step
  | next command _ hr _ ih => exact ih.next command hr

/-- What holds at the start, is kept by every move between states with `P` and by the change to the
next command holds as long as the session has `P`. -/
theorem induction {Q : State ν → Prop} (hs : Reachable app s) (hstart : P s → Q s)
    (hmove : ∀ {t t' : State ν}, Continues app P s t → Reachable app t → P t → P t' →
      Move app t t' → Q t → Q t')
    (hnext : ∀ {t : State ν} {r : Except Payload Reply} (command : Command), Reachable app t →
      t.result? = some r → P t → P (.start t.world command) → Q t → Q (.start t.world command))
    (h : Continues app P s t) : Q t := by
  induction h with
  | refl hP => exact hstart hP
  | @step t ht hP ih => exact hmove ht (ht.reachable hs) ht.holds hP (t.move_step app) ih
  | next command ht hr hP ih => exact hnext command (ht.reachable hs) hr ht.holds hP ih

/-- The states of the first `n` steps, if all of them have `P`. -/
theorem of_steps {n : Nat} (h : ∀ k ≤ n, P (s.steps app k)) :
    Continues app P s (s.steps app n) := by
  induction n with
  | zero => exact .refl (h 0 (Nat.le_refl _))
  | succ n ih =>
    have hn := h (n + 1) (Nat.le_refl _)
    rw [State.steps_add, State.steps_succ, State.steps_zero] at hn ⊢
    exact (ih fun k hk => h k (by omega)).step hn

end Continues

end EventDispatch
