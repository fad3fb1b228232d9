import EventDispatch.Proofs.Machine.Nesting

/-!
# Deliveries under way

The deliveries under way are those of the control and of the stack, innermost first, each with the
handlers that are left of its plan. One step begins a delivery, takes the next handler off the
innermost one, ends the innermost one, or leaves all of them alone (`Move.advances`). For a dispatch
that is about to begin this gives what has become of it at every later moment: it is still there
with the rest of its plan below deliveries with greater numbers, or it has ended
(`Reachable.progress`). Whatever happens above it, the handlers that it has attempted and those that
are left make up the plan that it began with.
-/

set_option autoImplicit false

namespace EventDispatch

variable {ν : Type} {app : Application ν}

/-! ## Pending deliveries and attempts -/

/-- A delivery under way, where it is, and the handlers that are left of its plan. -/
structure Pending where
  scope : Scope
  delivery : Delivery
  rest : List BoundHandler

/-- The delivery that the control is busy with. -/
def Control.pending? : Control ν → Option Pending
  | .deliver scope delivery rest => some ⟨scope, delivery, rest⟩
  | .fail scope delivery _ _ rest => some ⟨scope, delivery, rest⟩
  | _ => none

/-- The delivery that waits on the stack. -/
def Frame.pending? : Frame ν → Option Pending
  | .attempt scope delivery _ rest => some ⟨scope, delivery, rest⟩
  | .reporting scope delivery _ _ rest => some ⟨scope, delivery, rest⟩
  | _ => none

/-- The deliveries under way, innermost first. -/
def State.pending (s : State ν) : List Pending :=
  s.control.pending?.toList ++ s.stack.filterMap Frame.pending?

/-- An attempt to give an event to a handler. -/
structure Attempt where
  scope : Scope
  delivery : Delivery
  handler : BoundHandler
  deriving DecidableEq, Repr

/-- The attempt that an entry of the journal is about. -/
def Entry.attempt? : Entry ν → Option Attempt
  | ⟨scope, .attempted delivery handler⟩ => some ⟨scope, delivery, handler⟩
  | _ => none

/-- All attempts so far, oldest first. -/
def State.attempts (s : State ν) : List Attempt := s.world.read Entry.attempt?

/-- The attempts of the dispatch with a number, oldest first. -/
def State.attemptsOf (id : Nat) (s : State ν) : List Attempt :=
  s.attempts.filter (·.delivery.id = id)

theorem skipsRoutine_attempt? : World.SkipsRoutine (Entry.attempt? : Entry ν → Option Attempt) := by
  intro scope fact h
  cases fact with
  | attempted => exact Bool.noConfusion h
  | _ => rfl

/-! ## What a step does to them -/

/-- What a step does to the deliveries under way and to the attempts. -/
inductive Advances (app : Application ν) (s t : State ν) : Prop
  | idle (hpending : t.pending = s.pending) (hattempts : t.attempts = s.attempts)
      (hnext : t.world.nextDispatch = s.world.nextDispatch)
  | begun (scope : Scope) (event : Event)
      (hpending : t.pending = ⟨scope, ⟨s.world.nextDispatch, event⟩,
        (s.world.resolve app scope event.type).1.toList⟩ :: s.pending)
      (hattempts : t.attempts = s.attempts)
      (hnext : t.world.nextDispatch = s.world.nextDispatch + 1)
  | attempted {scope : Scope} {delivery : Delivery} {b : BoundHandler} {rest : List BoundHandler}
      {P : List Pending} (hbefore : s.pending = ⟨scope, delivery, b :: rest⟩ :: P)
      (hpending : t.pending = ⟨scope, delivery, rest⟩ :: P)
      (hattempts : t.attempts = s.attempts ++ [⟨scope, delivery, b⟩])
      (hnext : t.world.nextDispatch = s.world.nextDispatch)
  | completed {scope : Scope} {delivery : Delivery} {P : List Pending}
      (hbefore : s.pending = ⟨scope, delivery, []⟩ :: P) (hpending : t.pending = P)
      (hcontrol : t.control = .completed) (hattempts : t.attempts = s.attempts)
      (hnext : t.world.nextDispatch = s.world.nextDispatch)
  | abandoned {p : Pending} {P : List Pending} {payload : Payload}
      (hbefore : s.pending = p :: P) (hpending : t.pending = P)
      (hcontrol : t.control = .unwinding payload) (hattempts : t.attempts = s.attempts)
      (hnext : t.world.nextDispatch = s.world.nextDispatch)

theorem Move.advances {s t : State ν} (h : Move app s t) : Advances app s t := by
  have hf : World.SkipsRoutine (Entry.attempt? : Entry ν → Option Attempt) := skipsRoutine_attempt?
  cases h with
  | dispatch w scope origin event K =>
    exact .begun scope event rfl
      ((w.read_launch scope hf app origin event).trans (List.append_nil _))
      (w.nextDispatch_launch app scope origin event)
  | complete w scope delivery K =>
    exact .completed rfl rfl rfl (by simp [State.attempts, Entry.attempt?]) rfl
  | attempt w scope delivery b rest part K =>
    exact .attempted rfl rfl (by simp [State.attempts, Entry.attempt?]) rfl
  | mismatch w scope delivery b rest K =>
    -- A handler that is given no part of the event counts as attempted.
    exact .attempted rfl rfl (by simp [State.attempts, Entry.attempt?]) rfl
  | escape w payload scope delivery b rest K =>
    -- A panic that leaves an attempt or a report ends the delivery that waited there.
    exact .abandoned rfl rfl rfl rfl rfl
  | abandonReport w payload scope delivery b failure rest K =>
    exact .abandoned rfl rfl rfl rfl rfl
  | kept w scope operation k fs reply K hop hfs | stall w scope operation k fs K hop hfs =>
    exact .idle rfl (w.read_chronicle scope hf hfs k) rfl
  | joined w scope operation o type fs K hop htype hcheck hnew hfs =>
    refine .idle rfl ?_ (by simp)
    rw [State.attempts, World.read_enter, w.read_join scope hf hfs]
    rfl
  | parted w scope operation o member fs K hop hmember hfs =>
    refine .idle rfl ?_ (by simp)
    rw [State.attempts, World.read_enter, w.read_part scope hf hfs]
    rfl
  | spawned => exact .idle rfl rfl rfl
  | rest => exact .idle rfl rfl rfl
  | _ => exact .idle rfl (by simp [State.attempts, Entry.attempt?]) (by simp)

/-! ## Numbers of dispatches -/

/-- Dispatches under way and those that attempts were made for have numbers that are in use. -/
structure State.Numbered (s : State ν) : Prop where
  pending : ∀ p ∈ s.pending, p.delivery.id < s.world.nextDispatch
  attempts : ∀ a ∈ s.attempts, a.delivery.id < s.world.nextDispatch

theorem Advances.numbered {s t : State ν} (h : Advances app s t) (hs : s.Numbered) :
    t.Numbered := by
  cases h with
  | idle hpending hattempts hnext =>
    constructor
    · rw [hpending, hnext]
      exact hs.pending
    · rw [hattempts, hnext]
      exact hs.attempts
  | begun scope event hpending hattempts hnext =>
    constructor
    · rw [hpending, hnext]
      intro p hp
      -- The new delivery has taken the number that was the next free one.
      rcases List.mem_cons.1 hp with rfl | hp
      · exact Nat.lt_succ_self _
      · exact Nat.lt_succ_of_lt (hs.pending p hp)
    · rw [hattempts, hnext]
      intro a ha
      exact Nat.lt_succ_of_lt (hs.attempts a ha)
  | attempted hbefore hpending hattempts hnext =>
    have hhead := hs.pending
    rw [hbefore, List.forall_mem_cons] at hhead
    constructor
    · rw [hpending, hnext]
      exact List.forall_mem_cons.2 hhead
    · rw [hattempts, hnext]
      exact List.forall_mem_append.2 ⟨hs.attempts, List.forall_mem_singleton.2 hhead.1⟩
  | completed hbefore hpending hcontrol hattempts hnext =>
    have hhead := hs.pending
    rw [hbefore, List.forall_mem_cons] at hhead
    constructor
    · rw [hpending, hnext]
      exact hhead.2
    · rw [hattempts, hnext]
      exact hs.attempts
  | abandoned hbefore hpending hcontrol hattempts hnext =>
    have hhead := hs.pending
    rw [hbefore, List.forall_mem_cons] at hhead
    constructor
    · rw [hpending, hnext]
      exact hhead.2
    · rw [hattempts, hnext]
      exact hs.attempts

theorem Reachable.numbered {s : State ν} (hs : Reachable app s) : s.Numbered := by
  have hstart (w : World ν) (command : Command) : ∀ p ∈ (State.start w command).pending,
      p.delivery.id < w.nextDispatch := by
    intro p hp
    simp [State.pending, State.start, Control.pending?] at hp
  apply hs.induction (P := State.Numbered)
  · intro command
    exact ⟨hstart _ _, fun _ h => nomatch h⟩
  · intro s t _ hmove h
    exact hmove.advances.numbered h
  · intro s r command _ _ h
    exact ⟨hstart _ _, h.attempts⟩

/-! ## Frames above a dispatch -/

/-- Between a dispatch and a place above it at which something runs there is a delivery. -/
theorem Supports.eq_nil {place : Place} {scope : Scope} {event : Event} {K K₀ : List (Frame ν)}
    (hbase : Supports (.dispatch scope event) K₀) (h : Supports place (K ++ K₀))
    (hK : K.filterMap Frame.pending? = []) :
    K = [] ∧ ∃ scope' event', place = .dispatch scope' event' := by
  induction K generalizing place with
  | nil => cases hbase <;> (cases h; exact ⟨rfl, _, _, rfl⟩)
  | cons frame K ih =>
    -- An operation needs a handler below it, a handler an attempt, and an attempt is pending.
    cases h with
    | contained h =>
      obtain ⟨-, sc, e, hplace⟩ := ih h hK
      cases hplace
    | joined h =>
      obtain ⟨-, sc, e, hplace⟩ := ih h hK
      cases hplace
    | body h =>
      obtain ⟨-, sc, e, hplace⟩ := ih h hK
      cases hplace
    | firing h =>
      obtain ⟨-, sc, e, hplace⟩ := ih h hK
      cases hplace
    | reporting => cases hK
    | attempt => cases hK

/-- The control stands right above a dispatch when no delivery is under way above it. -/
theorem Nested.eq_nil {s : State ν} (hs : Nested app s) {scope : Scope} {event : Event}
    {K K₀ : List (Frame ν)} (hbase : Supports (.dispatch scope event) K₀)
    (hstack : s.stack = K ++ K₀) (hK : K.filterMap Frame.pending? = []) : K = [] := by
  obtain ⟨place, -, h⟩ := hs
  rw [hstack] at h
  exact (hbase.eq_nil h hK).1

theorem Nested.supports_dispatch {s : State ν} (hs : Nested app s) {scope : Scope}
    {origin : Origin} {event : Event} (hcontrol : s.control = .dispatch scope origin event) :
    Supports (.dispatch scope event) s.stack := by
  obtain ⟨place, hplace, h⟩ := hs
  rw [hcontrol] at hplace
  cases hplace
  exact h

/-! ## Ends of dispatches -/

theorem pending?_eq_none_of_isOutcome {control : Control ν} (h : control.isOutcome = true) :
    control.pending? = none := by
  cases control with
  | deliver | fail => exact Bool.noConfusion h
  | _ => rfl

/-- The end of a dispatch goes to the frame that waits for it. -/
theorem Move.pops_of_ended {s t : State ν} (h : Move app s t)
    (hcontrol : s.control = .completed ∨ ∃ payload, s.control = .unwinding payload) :
    t = s ∨ ∃ frame, s.stack = frame :: t.stack := by
  apply h.pops_of_outcome
  rcases hcontrol with hcontrol | ⟨payload, hcontrol⟩
  · rw [hcontrol]
    rfl
  · rw [hcontrol]
    rfl

/-! ## The course of one dispatch -/

/-- What has become, in a state with the frames `K` above those of `s`, of the dispatch that was
about to begin in `s`. -/
inductive Progress (s : State ν) (scope : Scope) (delivery : Delivery) (plan : List BoundHandler)
    (K : List (Frame ν)) (t : State ν) : Prop
  | ready (ht : t = s)
  | running (done rest : List BoundHandler) (above : List Pending) (hplan : done ++ rest = plan)
      (hpending : t.pending = above ++ ⟨scope, delivery, rest⟩ :: s.pending)
      (hlater : ∀ p ∈ above, delivery.id < p.delivery.id)
      (hnext : delivery.id < t.world.nextDispatch)
      (hattempts : t.attemptsOf delivery.id = done.map (Attempt.mk scope delivery))
  | completed (hK : K = []) (hcontrol : t.control = .completed)
      (hattempts : t.attemptsOf delivery.id = plan.map (Attempt.mk scope delivery))
  | abandoned {done rest : List BoundHandler} {payload : Payload} (hK : K = [])
      (hplan : done ++ rest = plan) (hcontrol : t.control = .unwinding payload)
      (hattempts : t.attemptsOf delivery.id = done.map (Attempt.mk scope delivery))

theorem State.attemptsOf_congr {s t : State ν} (h : t.attempts = s.attempts) (id : Nat) :
    t.attemptsOf id = s.attemptsOf id := by
  rw [attemptsOf, h, attemptsOf]

theorem State.attemptsOf_append {s t : State ν} {scope : Scope} {delivery : Delivery}
    {b : BoundHandler} (h : t.attempts = s.attempts ++ [⟨scope, delivery, b⟩]) (id : Nat) :
    t.attemptsOf id
      = s.attemptsOf id ++ if delivery.id = id then [⟨scope, delivery, b⟩] else [] := by
  rw [attemptsOf, h, List.filter_append, attemptsOf]
  by_cases hid : delivery.id = id <;> simp [hid]

/-- No attempt has been made for a dispatch that has not begun. -/
theorem State.Numbered.attemptsOf_next {s : State ν} (hs : s.Numbered) :
    s.attemptsOf s.world.nextDispatch = [] := by
  rw [attemptsOf, List.filter_eq_nil_iff]
  intro a ha
  have := hs.attempts a ha
  simp only [decide_eq_true_eq]
  omega

section Course

variable {s : State ν} {scope : Scope} {delivery : Delivery} {plan : List BoundHandler}

/-- One step of the machine, seen from a dispatch that is under way. -/
theorem Progress.step_running {t t' : State ν} {K' : List (Frame ν)} {done rest : List BoundHandler}
    {above : List Pending} (hadvances : Advances app t t')
    (hended : t'.pending = s.pending → K' = []) (hplan : done ++ rest = plan)
    (hpending : t.pending = above ++ ⟨scope, delivery, rest⟩ :: s.pending)
    (hlater : ∀ p ∈ above, delivery.id < p.delivery.id)
    (hnext : delivery.id < t.world.nextDispatch)
    (hattempts : t.attemptsOf delivery.id = done.map (Attempt.mk scope delivery)) :
    Progress s scope delivery plan K' t' := by
  -- What happens to a delivery above the dispatch changes the list `above`; what happens to the
  -- dispatch itself is seen in the cases in which that list is empty.
  cases hadvances with
  | idle hpending' hattempts' hnext' =>
    refine .running done rest above hplan (hpending'.trans hpending) hlater (hnext'.symm ▸ hnext) ?_
    rw [State.attemptsOf_congr hattempts', hattempts]
  | begun sc e hpending' hattempts' hnext' =>
    refine .running done rest (⟨sc, ⟨t.world.nextDispatch, e⟩,
      (t.world.resolve app sc e.type).1.toList⟩ :: above) hplan ?_
      (List.forall_mem_cons.2 ⟨hnext, hlater⟩) ?_ ?_
    · rw [hpending', hpending, List.cons_append]
    · rw [hnext']
      exact Nat.lt_succ_of_lt hnext
    · rw [State.attemptsOf_congr hattempts', hattempts]
  | @attempted sc d b rest' P hbefore hpending' hattempts' hnext' =>
    cases above with
    | nil =>
      -- The dispatch itself takes the next handler of its plan.
      rw [hbefore, List.nil_append, List.cons.injEq] at hpending
      obtain ⟨heq, rfl⟩ := hpending
      cases heq
      refine .running (done ++ [b]) rest' [] ?_ hpending' hlater
        (hnext'.symm ▸ hnext) ?_
      · rw [List.append_assoc, List.singleton_append, hplan]
      · rw [State.attemptsOf_append hattempts', hattempts]
        simp
    | cons p above =>
      rw [hbefore, List.cons_append, List.cons.injEq] at hpending
      obtain ⟨rfl, rfl⟩ := hpending
      have hid : delivery.id < d.id := (List.forall_mem_cons.1 hlater).1
      have hrest := (List.forall_mem_cons.1 hlater).2
      refine .running done rest (⟨sc, d, rest'⟩ :: above) hplan ?_
        (List.forall_mem_cons.2 ⟨hid, hrest⟩) (hnext'.symm ▸ hnext) ?_
      · rw [hpending', List.cons_append]
      · rw [State.attemptsOf_append hattempts', hattempts, if_neg (Nat.ne_of_gt hid),
          List.append_nil]
  | @completed sc d P hbefore hpending' hcontrol hattempts' hnext' =>
    cases above with
    | nil =>
      rw [hbefore, List.nil_append, List.cons.injEq] at hpending
      obtain ⟨heq, rfl⟩ := hpending
      cases heq
      refine .completed (hended hpending') hcontrol ?_
      rw [State.attemptsOf_congr hattempts', hattempts, ← hplan, List.append_nil]
    | cons p above =>
      rw [hbefore, List.cons_append, List.cons.injEq] at hpending
      refine .running done rest above hplan (hpending'.trans hpending.2)
        (List.forall_mem_cons.1 hlater).2 (hnext'.symm ▸ hnext) ?_
      rw [State.attemptsOf_congr hattempts', hattempts]
  | @abandoned p P payload hbefore hpending' hcontrol hattempts' hnext' =>
    cases above with
    | nil =>
      rw [hbefore, List.nil_append, List.cons.injEq] at hpending
      refine .abandoned (hended (hpending'.trans hpending.2)) hplan hcontrol ?_
      rw [State.attemptsOf_congr hattempts', hattempts]
    | cons p above =>
      rw [hbefore, List.cons_append, List.cons.injEq] at hpending
      refine .running done rest above hplan (hpending'.trans hpending.2)
        (List.forall_mem_cons.1 hlater).2 (hnext'.symm ▸ hnext) ?_
      rw [State.attemptsOf_congr hattempts', hattempts]

end Course

/-- The handlers that a dispatch has attempted and those that are left make up its plan, as long as
it runs; it ends in time with no frame above its own. -/
theorem Reachable.progress {s : State ν} (hs : Reachable app s) {scope : Scope} {origin : Origin}
    {event : Event} (hcontrol : s.control = .dispatch scope origin event) {t : State ν}
    (ht : During app s t) :
    ∃ K, t.stack = K ++ s.stack ∧
      Progress s scope ⟨s.world.nextDispatch, event⟩
        (s.world.resolve app scope event.type).1.toList K t := by
  have hbase := hs.nested.supports_dispatch hcontrol
  have hpendingBase : s.pending = s.stack.filterMap Frame.pending? := by
    rw [State.pending, hcontrol]
    rfl
  have hended {t' : State ν} {K' : List (Frame ν)} (ht' : Nested app t')
      (hstack : t'.stack = K' ++ s.stack) (hpending : t'.pending = s.pending) : K' = [] := by
    refine ht'.eq_nil hbase hstack ?_
    have hlength := congrArg List.length hpending
    rw [State.pending, hstack, List.filterMap_append, hpendingBase] at hlength
    simp only [List.length_append] at hlength
    exact List.length_eq_zero_iff.1 (by omega)
  refine ht.induction (.ready rfl) fun {t t' K K'} hd hd' hK hK' hmove hprogress => ?_
  -- A dispatch that has ended stays as it is until its frame is taken off.
  have hpops (hnil : K = [])
      (hout : t.control = .completed ∨ ∃ payload, t.control = .unwinding payload) : t' = t := by
    rcases hmove.pops_of_ended hout with heq | ⟨frame, heq⟩
    · exact heq
    · rw [hK, hnil, hK'] at heq
      have hlength := congrArg List.length heq
      simp at hlength
      omega
  have hstay (heq : t' = t) : K' = K := by
    rw [heq, hK] at hK'
    exact (List.append_cancel_right hK').symm
  cases hprogress with
  | ready heq =>
    subst heq
    have hstart := hmove.of_dispatch hcontrol
    refine .running [] _ [] rfl ?_ (fun _ h => nomatch h) ?_ ?_
    · rw [hstart, List.nil_append, hpendingBase]
      rfl
    · rw [hstart, World.nextDispatch_launch]
      exact Nat.lt_succ_self _
    · have hattempts : t'.attempts = t.attempts := by
        rw [hstart, State.attempts, World.read_launch _ _ skipsRoutine_attempt?]
        exact List.append_nil _
      rw [State.attemptsOf_congr hattempts]
      exact hs.numbered.attemptsOf_next
  | running done rest above hplan hpending hlater hnext hattempts =>
    have ht' := hd'.reachable hs
    exact Progress.step_running hmove.advances (hended ht'.nested hK') hplan hpending hlater hnext
      hattempts
  | completed hnil hcompleted hattempts =>
    have heq := hpops hnil (.inl hcompleted)
    rw [hstay heq, heq]
    exact .completed hnil hcompleted hattempts
  | abandoned hnil hplan hunwinding hattempts =>
    have heq := hpops hnil (.inr ⟨_, hunwinding⟩)
    rw [hstay heq, heq]
    exact .abandoned hnil hplan hunwinding hattempts

/-- A dispatch has attempted its whole plan when it ends, unless a panic ends it. -/
theorem Reachable.attemptsOf_eq {s : State ν} (hs : Reachable app s) {scope : Scope}
    {origin : Origin} {event : Event} (hcontrol : s.control = .dispatch scope origin event)
    {t : State ν} (ht : EndsAt app s t) (hpanic : ∀ payload, t.control ≠ .unwinding payload) :
    t.attemptsOf s.world.nextDispatch
      = (s.world.resolve app scope event.type).1.toList.map
          (Attempt.mk scope ⟨s.world.nextDispatch, event⟩) := by
  obtain ⟨K, hK, hprogress⟩ := hs.progress hcontrol ht.1
  have hstack := ht.stack_eq
  cases hprogress with
  | ready heq =>
    subst heq
    have hended := ht.isOutcome
    rw [hcontrol] at hended
    cases hended
  | running done rest above hplan hpending hlater hnext hattempts =>
    -- A dispatch that still runs would be the control's, and what the control has is an outcome.
    have hcount := congrArg List.length hpending
    rw [State.pending, State.pending, hstack, hcontrol,
      pending?_eq_none_of_isOutcome ht.isOutcome] at hcount
    simp [Control.pending?] at hcount
    omega
  | completed hnil hcompleted hattempts => exact hattempts
  | abandoned hnil hplan hunwinding hattempts => exact absurd hunwinding (hpanic _)

/-- What a dispatch has attempted is the beginning of its plan. -/
theorem Reachable.attemptsOf_prefix {s : State ν} (hs : Reachable app s) {scope : Scope}
    {origin : Origin} {event : Event} (hcontrol : s.control = .dispatch scope origin event)
    {t : State ν} (ht : During app s t) :
    t.attemptsOf s.world.nextDispatch
      <+: (s.world.resolve app scope event.type).1.toList.map
          (Attempt.mk scope ⟨s.world.nextDispatch, event⟩) := by
  obtain ⟨K, hK, hprogress⟩ := hs.progress hcontrol ht
  cases hprogress with
  | ready heq =>
    subst heq
    rw [hs.numbered.attemptsOf_next]
    exact List.nil_prefix
  | running done rest above hplan hpending hlater hnext hattempts =>
    rw [hattempts, ← hplan, List.map_append]
    exact List.prefix_append _ _
  | completed hnil hcompleted hattempts =>
    exact ⟨[], (List.append_nil _).trans hattempts⟩
  | abandoned hnil hplan hunwinding hattempts =>
    rw [hattempts, ← hplan, List.map_append]
    exact List.prefix_append _ _

end EventDispatch
