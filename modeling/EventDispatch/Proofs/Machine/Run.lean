import EventDispatch.Proofs.Machine.Move

/-!
# Runs of the machine

A session carries out one command after the other in one world; `Reachable` holds its states. What
every move keeps holds in all of them (`Reachable.induction`). `During app s t` says that the run
from `s` has come to `t` and that the frames of the stack of `s` have been in place all the time;
`EndsAt app s t` says that the next step takes the topmost of them off. For the state in which a
dispatch is about to begin these are the states of that dispatch and its last one.
-/

set_option autoImplicit false

namespace EventDispatch

variable {ν : Type} {app : Application ν}

/-- The states of a session. -/
inductive Reachable (app : Application ν) : State ν → Prop
  | start (command : Command) : Reachable app (.start {} command)
  | step {s : State ν} : Reachable app s → Reachable app (s.step app)
  | next {s : State ν} {r : Except Payload Reply} (command : Command) :
      Reachable app s → s.result? = some r → Reachable app (.start s.world command)

/-- What holds at the start of a session, is kept by every move and by the change to the next
command holds in every state. -/
theorem Reachable.induction {P : State ν → Prop} (hstart : ∀ command, P (.start {} command))
    (hmove : ∀ {s t : State ν}, Reachable app s → Move app s t → P s → P t)
    (hnext : ∀ {s : State ν} {r : Except Payload Reply} (command : Command), Reachable app s →
      s.result? = some r → P s → P (.start s.world command))
    {s : State ν} (hs : Reachable app s) : P s := by
  induction hs with
  | start command => exact hstart command
  | @step s hs ih => exact hmove hs (s.move_step app) ih
  | next command hs hr ih => exact hnext command hs hr ih

theorem State.stack_of_result {s : State ν} {r : Except Payload Reply} (hr : s.result? = some r) :
    s.stack = [] := by
  obtain ⟨w, control, K⟩ := s
  cases K with
  | nil => rfl
  | cons frame K => cases control <;> simp [result?] at hr

theorem Reachable.steps {s : State ν} (hs : Reachable app s) (n : Nat) :
    Reachable app (s.steps app n) := by
  induction n generalizing s with
  | zero => exact hs
  | succ n ih => exact ih hs.step

/-- The world after some commands, each of them run for at most `fuel` steps. -/
def World.after (app : Application ν) (fuel : Nat) (w : World ν) : List Command → World ν
  | [] => w
  | command :: rest => ((State.start w command).runToEnd app fuel).world.after app fuel rest

/-- Whether each of some commands ends within `fuel` steps. -/
def World.finishes (app : Application ν) (fuel : Nat) (w : World ν) : List Command → Bool
  | [] => true
  | command :: rest =>
    let last := (State.start w command).runToEnd app fuel
    last.result?.isSome && last.world.finishes app fuel rest

theorem Reachable.after {fuel : Nat} {w : World ν} {commands : List Command} (command : Command)
    (hw : ∀ c, Reachable app (.start w c)) (hends : w.finishes app fuel commands = true) :
    Reachable app (.start (w.after app fuel commands) command) := by
  induction commands generalizing w with
  | nil => exact hw command
  | cons c rest ih =>
    rw [World.finishes, Bool.and_eq_true] at hends
    obtain ⟨r, hr⟩ := Option.isSome_iff_exists.1 hends.1
    have hlast := (hw c).steps fuel
    rw [← State.runToEnd_eq_steps] at hlast
    exact ih (fun c' => hlast.next c' hr) hends.2

/-- The run from `s` has come to `t`, and the frames of the stack of `s` are still in place. -/
inductive During (app : Application ν) (s : State ν) : State ν → Prop
  | refl : During app s s
  | step {t : State ν} : During app s t → s.stack.length ≤ (t.step app).stack.length →
      During app s (t.step app)

/-- The run from `s` has come to `t`, and the next step takes a frame of `s` off the stack. -/
def EndsAt (app : Application ν) (s t : State ν) : Prop :=
  During app s t ∧ (t.step app).stack.length < s.stack.length

/-- A move keeps the stack, or puts one frame on it, or takes one frame off. -/
theorem Move.stack_cases {s t : State ν} (h : Move app s t) :
    t.stack = s.stack ∨ (∃ frame, t.stack = frame :: s.stack) ∨
      ∃ frame, s.stack = frame :: t.stack := by
  cases h <;> simp

/-- Only an outcome takes a frame off the stack. -/
theorem Move.isOutcome_of_pops {s t : State ν} (h : Move app s t)
    (hpops : t.stack.length < s.stack.length) : s.control.isOutcome = true := by
  cases h with
  | succeeded | failed | close | reported | resume | uncaught | wait => rfl
  | panicked | escape | abandon | abandonReport | contain | unwindBody | unwindThread => rfl
  | rest w control K hended => exact hended
  | _ => exact absurd hpops (by simp)

/-- An outcome goes to the topmost frame, if that frame waits for such an outcome. -/
theorem Move.pops_of_outcome {s t : State ν} (h : Move app s t)
    (houtcome : s.control.isOutcome = true) : t = s ∨ ∃ frame, s.stack = frame :: t.stack := by
  cases h with
  | succeeded | failed | close | reported | resume | uncaught | wait => exact .inr ⟨_, rfl⟩
  | panicked | escape | abandon | abandonReport | contain | unwindBody | unwindThread =>
    exact .inr ⟨_, rfl⟩
  | rest => exact .inl rfl
  | _ => cases houtcome

/-- A dispatch resolves the plan of its event and starts the delivery. -/
theorem Move.of_dispatch {s t : State ν} (h : Move app s t) {scope : Scope} {origin : Origin}
    {event : Event} (hcontrol : s.control = .dispatch scope origin event) :
    t = ⟨s.world.launch app scope origin event,
      .deliver scope ⟨s.world.nextDispatch, event⟩ (s.world.resolve app scope event.type).1.toList,
      s.stack⟩ := by
  cases h with
  | dispatch => cases hcontrol; rfl
  | rest w control K hended =>
    rw [show control = .dispatch scope origin event from hcontrol] at hended
    cases hended
  | _ => cases hcontrol

theorem During.reachable {s t : State ν} (hs : Reachable app s) (h : During app s t) :
    Reachable app t := by
  induction h with
  | refl => exact hs
  | step _ _ ih => exact ih.step

theorem During.exists_stack {s t : State ν} (h : During app s t) :
    ∃ K, t.stack = K ++ s.stack := by
  induction h with
  | refl => exact ⟨[], rfl⟩
  | @step t _ hlength ih =>
    obtain ⟨K, hK⟩ := ih
    rcases (t.move_step app).stack_cases with heq | ⟨frame, heq⟩ | ⟨frame, heq⟩
    · exact ⟨K, heq.trans hK⟩
    · exact ⟨frame :: K, by rw [heq, hK, List.cons_append]⟩
    · -- A frame of the start cannot be taken off: the stack would get too low.
      cases K with
      | nil =>
        have := congrArg List.length (hK.symm.trans heq)
        simp at this
        omega
      | cons top K =>
        rw [heq, List.cons_append] at hK
        exact ⟨K, (List.cons.inj hK).2⟩

section Frames

variable {stack stack' base K K' : List (Frame ν)}

/-- A stack that stays as it is has the same frames above a base. -/
theorem frames_of_same (hK : stack = K ++ base) (hK' : stack' = K' ++ base)
    (h : stack' = stack) : K' = K :=
  List.append_cancel_right (hK'.symm.trans (h.trans hK))

/-- A frame that is put on a stack is put on the frames above a base. -/
theorem frames_of_push {frame : Frame ν} (hK : stack = K ++ base) (hK' : stack' = K' ++ base)
    (h : stack' = frame :: stack) : K' = frame :: K := by
  have heq : K' ++ base = (frame :: K) ++ base := by
    rw [← hK', h, hK, List.cons_append]
  exact List.append_cancel_right heq

end Frames

/-- What holds at the start and is kept by every move that leaves the frames of the start in place
holds as long as they are in place. -/
theorem During.induction {s : State ν} {P : List (Frame ν) → State ν → Prop} (hstart : P [] s)
    (hmove : ∀ {t t' : State ν} {K K' : List (Frame ν)}, During app s t → During app s t' →
      t.stack = K ++ s.stack → t'.stack = K' ++ s.stack → Move app t t' → P K t → P K' t')
    {t : State ν} (h : During app s t) : ∃ K, t.stack = K ++ s.stack ∧ P K t := by
  induction h with
  | refl => exact ⟨[], rfl, hstart⟩
  | @step t hd hlength ih =>
    obtain ⟨K, hK, hP⟩ := ih
    have hd' := During.step hd hlength
    obtain ⟨K', hK'⟩ := hd'.exists_stack
    exact ⟨K', hK', hmove hd hd' hK hK' (t.move_step app) hP⟩

theorem During.trans {s t u : State ν} (hst : During app s t) (htu : During app t u) :
    During app s u := by
  induction htu with
  | refl => exact hst
  | step _ hlength ih =>
    obtain ⟨K, hK⟩ := hst.exists_stack
    refine ih.step (Nat.le_trans ?_ hlength)
    simp [hK]

/-- The states of the first `n` steps, if the stack does not get lower in them. -/
theorem During.of_steps {s : State ν} {n : Nat}
    (h : ∀ k ≤ n, s.stack.length ≤ (s.steps app k).stack.length) :
    During app s (s.steps app n) := by
  induction n with
  | zero => exact .refl
  | succ n ih =>
    have hn := h (n + 1) (Nat.le_refl _)
    rw [State.steps_add, State.steps_succ, State.steps_zero] at hn ⊢
    exact (ih fun k hk => h k (by omega)).step hn

/-- The states of a run are those of its steps. -/
theorem During.exists_steps {s t : State ν} (h : During app s t) :
    ∃ n, t = s.steps app n ∧ ∀ k ≤ n, s.stack.length ≤ (s.steps app k).stack.length := by
  induction h with
  | refl =>
    refine ⟨0, rfl, ?_⟩
    intro k hk
    rw [Nat.le_zero.1 hk]
    exact Nat.le_refl _
  | step _ hlength ih =>
    obtain ⟨n, rfl, hn⟩ := ih
    have hsucc : (s.steps app n).step app = s.steps app (n + 1) := by
      rw [State.steps_add, State.steps_succ, State.steps_zero]
    refine ⟨n + 1, hsucc, ?_⟩
    intro k hk
    rcases Nat.lt_or_eq_of_le hk with hlt | rfl
    · exact hn k (Nat.le_of_lt_succ hlt)
    · rwa [← hsucc]

theorem EndsAt.of_steps {s : State ν} {n : Nat}
    (h : ∀ k ≤ n, s.stack.length ≤ (s.steps app k).stack.length)
    (hend : (s.steps app (n + 1)).stack.length < s.stack.length) :
    EndsAt app s (s.steps app n) := by
  refine ⟨.of_steps h, ?_⟩
  rwa [State.steps_add, State.steps_succ, State.steps_zero] at hend

/-- A run that ends after `n` steps has no other states than those of its first `n` steps. -/
theorem EndsAt.exists_steps {s t : State ν} {n : Nat} (h : EndsAt app s (s.steps app n))
    (ht : During app s t) : ∃ k ≤ n, t = s.steps app k := by
  obtain ⟨k, rfl, hk⟩ := ht.exists_steps
  refine ⟨k, Nat.le_of_not_lt fun hlt => ?_, rfl⟩
  have hlength := hk (n + 1) hlt
  rw [State.steps_add, State.steps_succ, State.steps_zero] at hlength
  exact Nat.not_lt.2 hlength h.2

/-- At the end of a run above its frames all frames above them are gone, and the topmost of them is
about to go. -/
theorem EndsAt.stack_eq {s t : State ν} (h : EndsAt app s t) : t.stack = s.stack := by
  obtain ⟨hd, hlength⟩ := h
  obtain ⟨K, hK⟩ := hd.exists_stack
  have hlen := congrArg List.length hK
  rw [List.length_append] at hlen
  rcases (t.move_step app).stack_cases with heq | ⟨frame, heq⟩ | ⟨frame, heq⟩
  · rw [heq] at hlength
    omega
  · rw [heq, List.length_cons] at hlength
    omega
  · rw [heq, List.length_cons] at hlen
    have : K = [] := List.length_eq_zero_iff.1 (by omega)
    rw [hK, this, List.nil_append]

/-- Nothing but an outcome ends a run above some frames. -/
theorem EndsAt.isOutcome {s t : State ν} (h : EndsAt app s t) : t.control.isOutcome = true := by
  refine (t.move_step app).isOutcome_of_pops ?_
  rw [h.stack_eq]
  exact h.2

/-! ## The journal of a run -/

/-- The entries made on the way from `s` to `t`. -/
def State.since (s t : State ν) : List (Entry ν) :=
  t.world.history.drop s.world.history.length

/-- A move only adds to the journal. -/
theorem Move.history_grows {s t : State ν} (h : Move app s t) :
    s.world.history <+: t.world.history := by
  cases h with
  | dispatch w scope origin event K =>
    obtain ⟨fs, -, hhistory⟩ := w.history_launch app scope origin event
    exact ⟨_, (hhistory.trans (List.append_assoc ..)).symm⟩
  | spawned w thread command K => exact List.prefix_refl _
  | _ => simp

theorem State.history_grows (s : State ν) (n : Nat) :
    s.world.history <+: (s.steps app n).world.history := by
  induction n generalizing s with
  | zero => exact List.prefix_refl _
  | succ n ih => exact (s.move_step app).history_grows.trans (ih (s.step app))

theorem During.history_grows {s t : State ν} (h : During app s t) :
    s.world.history <+: t.world.history := by
  induction h with
  | refl => exact List.prefix_refl _
  | @step t _ _ ih => exact ih.trans (t.move_step app).history_grows

@[simp] theorem State.since_self (s : State ν) : s.since s = [] := by
  simp [since]

theorem State.since_eq {s t : State ν} {es : List (Entry ν)}
    (h : t.world.history = s.world.history ++ es) : s.since t = es := by
  simp [since, h]

/-- What is read at the end is what was read at the start and what is read on the way. -/
theorem State.read_since {α : Type} (f : Entry ν → Option α) {s t : State ν}
    (h : s.world.history <+: t.world.history) :
    t.world.read f = s.world.read f ++ (s.since t).filterMap f := by
  obtain ⟨es, hes⟩ := h
  rw [since_eq hes.symm, World.read_append f hes.symm]

end EventDispatch
