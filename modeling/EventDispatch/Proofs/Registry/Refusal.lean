import EventDispatch.Proofs.Failure.Guard
import EventDispatch.Proofs.Machine.Effects
import EventDispatch.Proofs.Registry.Identity
import EventDispatch.Proofs.Registry.Membership
import EventDispatch.Script.Play

/-!
# Refused operations on the registry

An operation that asks for a change of the registry and is refused changes nothing but the number
that the next handler is to be given: a registration numbers its handlers before it finds out that
the object is registered. All numbers that are in use are below that number, so the run goes on as
if the operation had not been asked for, with the numbers to come matched anew
(`Reachable.refused_changes_nothing`).
-/

set_option autoImplicit false

namespace EventDispatch

variable {ν : Type} {app : Application ν}

/-! ## What a refusal leaves behind -/

/-- Whether a world is another one in which some handler numbers have been used up and some
preliminary facts have been entered. -/
def World.Attempted (scope : Scope) (w w' : World ν) : Prop :=
  ∃ k fs, (∀ fact ∈ fs, Fact.isPreliminary fact = true) ∧ w' = w.chronicle k scope fs

namespace World

variable {w w' : World ν} {scope : Scope}

theorem Attempted.refl (w : World ν) (scope : Scope) : w.Attempted scope w :=
  ⟨0, [], List.forall_mem_nil _, (w.chronicle_zero_nil scope).symm⟩

theorem Attempted.record (h : w.Attempted scope w') {fact : Fact ν}
    (hfact : fact.isPreliminary = true) : w.Attempted scope (w'.record scope fact) := by
  obtain ⟨k, fs, hfs, rfl⟩ := h
  refine ⟨k, fs ++ [fact], ?_, record_chronicle ..⟩
  exact List.forall_mem_append.2 ⟨hfs, List.forall_mem_singleton.2 hfact⟩

theorem Attempted.useHandlers (h : w.Attempted scope w') (n : Nat) :
    w.Attempted scope { w' with nextHandler := w'.nextHandler + n } := by
  obtain ⟨k, fs, hfs, rfl⟩ := h
  refine ⟨k + n, fs, hfs, ?_⟩
  simp only [chronicle, Nat.add_assoc]

/-- A registration that is not made leaves an attempt behind. -/
theorem Attempted.register (h : w.Attempted scope w') {o : ObjectId} {type : ObserverType}
    (hmade : ∀ name, (w'.register app scope o type).1 ≠ .made name) :
    w.Attempted scope (w'.register app scope o type).2 := by
  unfold World.register at hmade ⊢
  rcases hcheck : app.check scope.manager type with _ | refusal | _
  · exact h
  · dsimp only
    split
    · exact h.record rfl
    · exact h
  · rw [hcheck] at hmade
    dsimp only at hmade ⊢
    split at hmade
    · rename_i hholds
      rw [if_pos hholds]
      exact ((h.useHandlers _).record rfl).record rfl
    · exact absurd rfl (hmade type.name)

theorem attempted_add {o : ObjectId} (hmade : ∀ name, (w.add app scope o).1 ≠ .made name) :
    w.Attempted scope (w.add app scope o).2 := by
  unfold add at hmade ⊢
  cases htype : app.observerType? o with
  | none => exact (Attempted.refl w scope).record rfl
  | some type =>
    rw [htype] at hmade
    exact (Attempted.refl w scope).register hmade

theorem attempted_addComponent {o : ObjectId}
    (hmade : ∀ name, (w.addComponent app scope o).1 ≠ .made name) :
    w.Attempted scope (w.addComponent app scope o).2 := by
  unfold addComponent at hmade ⊢
  cases htype : (app.observerType? o).filter (·.announced) with
  | none => exact (Attempted.refl w scope).record rfl
  | some type =>
    rw [htype] at hmade
    exact ((Attempted.refl w scope).record rfl).register hmade

theorem attempted_remove {o : ObjectId} (hmade : ∀ name, (w.remove scope o).1 ≠ .made name) :
    w.Attempted scope (w.remove scope o).2 := by
  have hr := w.removes_remove scope o
  generalize w.remove scope o = r at hr hmade ⊢
  cases hr with
  | kept => exact .refl w scope
  | @parted member => exact absurd rfl (hmade member.observerType)

end World

namespace State

/-- An operation that is answered at once has not been carried out. -/
theorem conclude_of_answered {s : State ν} {scope : Scope} {announce : String → Event}
    {r : World.Change × World ν} {reply : Reply}
    (h : (s.conclude scope announce r).control = .answered reply) :
    (∀ name, r.1 ≠ .made name) ∧
      s.conclude scope announce r = { s with world := r.2, control := .answered reply } := by
  obtain ⟨change, w⟩ := r
  cases change with
  | none | refused =>
    obtain rfl := Control.answered.inj h
    exact ⟨nofun, rfl⟩
  | made | undecided => cases h

/-- An operation on the registry that is answered at once leaves an attempt behind. -/
theorem step_of_answered {s : State ν} {scope : Scope} {operation : Operation} {reply : Reply}
    (hcontrol : s.control = .perform scope operation) (hop : operation.isMembership = true)
    (hreply : (s.step app).control = .answered reply) :
    ∃ w, s.world.Attempted scope w ∧
      s.step app = { s with world := w, control := .answered reply } := by
  obtain ⟨w, control, K⟩ := s
  subst hcontrol
  cases operation with
  | add o =>
    obtain ⟨hmade, heq⟩ := conclude_of_answered (r := w.add app scope o) hreply
    exact ⟨_, World.attempted_add hmade, heq⟩
  | addComponent o =>
    obtain ⟨hmade, heq⟩ := conclude_of_answered (r := w.addComponent app scope o) hreply
    exact ⟨_, World.attempted_addComponent hmade, heq⟩
  | remove o | removeComponent o =>
    obtain ⟨hmade, heq⟩ := conclude_of_answered (r := w.remove scope o) hreply
    exact ⟨_, World.attempted_remove hmade, heq⟩
  | isRegistered | fire | status => cases hop

end State

/-! ## Numbers in use -/

/-- The numbers in the guards have been given to handlers. -/
def World.GuardsBelow (w : World ν) : Prop :=
  ∀ scope, ∀ i ∈ (w.guard? scope).getD [], i < w.nextHandler

namespace World.GuardsBelow

variable {w w' : World ν} {scope : Scope}

theorem of_guard? (h : w.GuardsBelow) (hguard : ∀ scope, w'.guard? scope = w.guard? scope)
    (hnext : w.nextHandler ≤ w'.nextHandler) : w'.GuardsBelow := by
  intro sc i hi
  rw [hguard] at hi
  exact Nat.lt_of_lt_of_le (h sc i hi) hnext

theorem enter (h : w.GuardsBelow) : (w.enter scope).GuardsBelow := by
  intro sc
  rw [nextHandler_enter]
  exact forall_guard_enter (h sc) scope

theorem leave (h : w.GuardsBelow) (outermost : Bool) : (w.leave scope outermost).GuardsBelow := by
  intro sc
  rw [nextHandler_leave]
  exact forall_guard_leave (h sc) scope outermost

theorem addFailure (h : w.GuardsBelow) {n : Nat} (hn : n < w.nextHandler) :
    (w.addFailure scope n).GuardsBelow := by
  intro sc
  rw [nextHandler_addFailure]
  exact forall_guard_addFailure (h sc) scope hn

end World.GuardsBelow

theorem Move.guardsBelow {s t : State ν} (h : Move app s t) (hs : s.Identified)
    (hbelow : s.world.GuardsBelow) : t.world.GuardsBelow := by
  -- A number that is entered into a guard is that of the handler whose failure is dealt with.
  have hfailed {scope : Scope} {d : Delivery} {b : BoundHandler} {failure : Failure}
      {rest : List BoundHandler} (hcontrol : s.control = .fail scope d b failure rest) :
      b.id < s.world.nextHandler := by
    refine hs.below (m := scope.manager) (.inr ?_)
    simp [State.handlers, hcontrol, Control.handlers]
  cases h with
  | joined w scope operation o type fs K =>
    have hjoin : (w.join scope o type fs).GuardsBelow :=
      hbelow.of_guard? (fun _ => World.guard?_join ..) (by simp)
    exact hjoin.enter
  | parted w scope operation o member fs K =>
    have hpart : (w.part scope o fs).GuardsBelow :=
      hbelow.of_guard? (fun _ => World.guard?_part ..) (by simp)
    exact hpart.enter
  | fire => exact hbelow.enter
  | close | abandon => exact hbelow.leave _
  | undeliverable | unreported | report => exact hbelow.addFailure (hfailed rfl)
  | dispatch => exact hbelow.of_guard? (fun _ => World.guard?_launch ..) (by simp)
  | kept | stall => exact hbelow.of_guard? (fun _ => rfl) (by simp)
  | _ => exact hbelow

theorem Reachable.guardsBelow {s : State ν} (hs : Reachable app s) : s.world.GuardsBelow := by
  apply hs.induction (P := fun s => s.world.GuardsBelow)
  · intro _ _ i hi
    cases hi
  · intro s t hs hmove h
    exact hmove.guardsBelow hs.identified h
  · intro s r command _ _ h
    exact h

/-! ## A state and itself -/

section Self

variable {f : Nat → Nat}

theorem BoundHandler.renumber_eq_self {b : BoundHandler} (hb : f b.id = b.id) :
    b.renumber f = b := by
  rw [renumber, hb]

theorem BoundHandler.map_renumber_eq_self {bs : List BoundHandler} (hbs : ∀ b ∈ bs, f b.id = b.id) :
    bs.map (.renumber f) = bs :=
  (List.map_congr_left fun b hb => renumber_eq_self (hbs b hb)).trans (List.map_id bs)

/-- A registry mirrors itself if the numbers below the limit stay as they are. -/
theorem Registry.mirrors_self {m : ManagerId} {limit : Nat} {r : Registry}
    (hmade : ∀ member ∈ r, member.MadeBelow app m limit) (hf : ∀ i < limit, f i = i) :
    r.Mirrors f limit r := by
  induction r with
  | nil => exact .nil
  | cons member rest ih =>
    obtain ⟨hmember, hrest⟩ := List.forall_mem_cons.1 hmade
    obtain ⟨es, hes, hfirst, hsecond⟩ := ih hrest
    obtain ⟨type, firstId, -, hcheck, hlimit, hbuild⟩ := hmember
    refine ⟨⟨member.observer, type.name, type.bindings, firstId, firstId⟩ :: es, ?_, ?_, ?_⟩
    · refine List.forall_mem_cons.2 ⟨⟨?_, hlimit, ?_⟩, hes⟩
      · exact Binding.pairwise_clashes_iff.1 (Binding.pairwise_of_check hcheck)
      · intro i hi
        exact hf _ (by dsimp only at hi ⊢; omega)
    · rw [List.map_cons, ← hfirst, Enrolment.member, ← hbuild]
    · rw [List.map_cons, ← hsecond, Enrolment.member', ← hbuild]

/-- A frame mirrors itself if the numbers of its handlers stay as they are. -/
theorem Frame.mirrors_self {frame : Frame ν} (hf : ∀ x ∈ frame.handlers, f x.2.id = x.2.id) :
    frame.Mirrors f frame := by
  cases frame with
  | attempt scope delivery b rest =>
    simp only [handlers, List.forall_mem_map, List.forall_mem_cons] at hf
    have h : (Frame.attempt scope delivery (b.renumber f) (rest.map (.renumber f)) :
        Frame ν).Mirrors f (.attempt scope delivery b rest) := .attempt ..
    rwa [BoundHandler.renumber_eq_self hf.1, BoundHandler.map_renumber_eq_self hf.2] at h
  | reporting scope delivery b failure rest =>
    simp only [handlers, List.forall_mem_map, List.forall_mem_cons] at hf
    have h : (Frame.reporting scope delivery (b.renumber f) failure (rest.map (.renumber f)) :
        Frame ν).Mirrors f (.reporting scope delivery b failure rest) := .reporting ..
    rwa [BoundHandler.renumber_eq_self hf.1, BoundHandler.map_renumber_eq_self hf.2] at h
  | body => exact .body ..
  | firing => exact .firing ..
  | contained => exact .contained
  | joined => exact .joined

end Self

/-! ## Going on after a refusal -/

/-- The state in which the operation that is about to be carried out is left out, and whoever has
asked for it is given a reply all the same. -/
def State.leaveOut (s : State ν) (reply : Reply) : State ν := { s with control := .answered reply }

/-- After an attempt to change the registry the state is the same up to the numbers to come. -/
theorem Reachable.agrees_leaveOut {s : State ν} (hs : Reachable app s) {scope : Scope}
    {w : World ν} (hw : s.world.Attempted scope w) (reply : Reply) :
    ∃ f, State.Agrees .whole f { s with world := w, control := .answered reply }
      (s.leaveOut reply) := by
  obtain ⟨k, fs, hfs, rfl⟩ := hw
  have hold {i : Nat} (hi : i < s.world.nextHandler) :
      matched id s.world.nextHandler (s.world.nextHandler + k) i = i := matched_of_lt hi
  refine ⟨matched id s.world.nextHandler (s.world.nextHandler + k), ⟨?_, ?_, ?_, ?_, ?_, ?_, ?_⟩,
    .answered reply, ?_⟩
  · intro m _
    exact Registry.mirrors_self (fun _ => (hs.sound m).made) fun _ => hold
  · intro m _
    rfl
  · intro sc _
    show s.world.guard? sc = (s.world.guard? sc).map _
    have hbelow := hs.guardsBelow sc
    cases hguard : s.world.guard? sc with
    | none => rfl
    | some failed =>
      rw [hguard, Option.getD_some] at hbelow
      rw [Option.map_some, List.map_congr_left fun i hi => hold (hbelow i hi), List.map_id']
  · have hnone : (fs.map (Entry.mk scope)).filterMap View.whole.seen? = [] := by
      rw [List.filterMap_map, List.filterMap_eq_nil_iff]
      intro fact hfact
      exact if_pos (hfs fact hfact)
    show (s.world.chronicle k scope fs).read View.whole.seen? = s.world.read View.whole.seen?
    rw [World.read_append _ (World.history_chronicle ..), hnone, List.append_nil]
  · intro _
    rfl
  · exact matched_add
  · exact matched_injective Function.injective_id (fun _ => rfl) (Nat.le_add_right _ _)
  · refine List.forall₂_same.2 ?_
    intro frame hframe
    apply Frame.mirrors_self
    rintro ⟨m, b⟩ hb
    refine hold (hs.identified.below (m := m) (.inr ?_))
    exact List.mem_append_left _ (List.mem_append_right _ (List.mem_flatMap.2 ⟨frame, hframe, hb⟩))

/-- An operation that asks for a change of the registry and gives a reply other than `true` has been
answered in its first step. -/
theorem Reachable.eq_step_of_refused {s t : State ν} (hs : Reachable app s) {scope : Scope}
    {operation : Operation} (hcontrol : s.control = .perform scope operation)
    (hop : operation.isMembership = true) (ht : During app s t) (hstack : t.stack = s.stack)
    {reply : Reply} (hreply : t.control = .answered reply) (hrefused : reply ≠ .flag true) :
    t = s.step app := by
  have hmade := (hs.reply_of_membership hcontrol hop ht hstack hreply).1
  have houtcome : operation.Outcome scope s (s.step app) := State.outcome_step hcontrol hop
  cases houtcome with
  | made name event outermost hevent henroll hdispatch =>
    exact absurd (hmade.2 ⟨name, event, hevent, henroll, hdispatch⟩) hrefused
  | kept answer _ hanswered _ hkept =>
    rcases ht.cases_of_same hkept with rfl | hafter
    · rw [hcontrol] at hreply
      cases hreply
    · apply hafter.eq_of_isOutcome
      rw [hanswered]
      rfl
  | stuck hstuck _ hkept =>
    rcases ht.cases_of_same hkept with rfl | hafter
    · rw [hcontrol] at hreply
      cases hreply
    · exact hafter.eq_of_stuck hstuck

/-- An operation that asks for a change of the registry and is answered with `false` or with a
refusal leaves every registry with its handlers, every plan that is at hand and every guard as they
were, enters nothing into the journal but preliminary facts, and has no effect. Whatever the run is
told to do after it, the commands have the same results, the handlers are given the same replies and
the effects are the same as if the operation had been left out and answered all the same. -/
theorem Reachable.refused_changes_nothing {s t : State ν} (hs : Reachable app s) {scope : Scope}
    {operation : Operation} (hcontrol : s.control = .perform scope operation)
    (hop : operation.isMembership = true) (ht : During app s t) (hstack : t.stack = s.stack)
    {reply : Reply} (hreply : t.control = .answered reply)
    (hrefused : reply = .flag false ∨ ∃ refusal, reply = .refused refusal) :
    t.world.managers = s.world.managers ∧ t.world.guards = s.world.guards ∧
    (∀ entry ∈ s.since t, entry.fact.isPreliminary = true) ∧
    t.world.effects app.names = s.world.effects app.names ∧
    ∀ moves : List (Option Command),
      (t.follow app moves).result? = ((s.leaveOut reply).follow app moves).result? ∧
      (t.follow app moves).handed? = ((s.leaveOut reply).follow app moves).handed? ∧
      (t.follow app moves).world.effects app.names
        = ((s.leaveOut reply).follow app moves).world.effects app.names := by
  have htrue : reply ≠ .flag true := by
    rcases hrefused with rfl | ⟨refusal, rfl⟩ <;> simp
  have hstep := hs.eq_step_of_refused hcontrol hop ht hstack hreply htrue
  rw [hstep] at hreply
  obtain ⟨w, hw, heq⟩ := State.step_of_answered hcontrol hop hreply
  obtain rfl : t = { s with world := w, control := .answered reply } := hstep.trans heq
  obtain ⟨f, hagrees⟩ := hs.agrees_leaveOut hw reply
  refine ⟨?_, ?_, ?_, hagrees.world.effects_eq app.names, ?_⟩
  · obtain ⟨k, fs, -, rfl⟩ := hw
    rfl
  · obtain ⟨k, fs, -, rfl⟩ := hw
    rfl
  · obtain ⟨k, fs, hfs, rfl⟩ := hw
    intro entry hentry
    rw [State.since_eq (World.history_chronicle ..)] at hentry
    obtain ⟨fact, hfact, rfl⟩ := List.mem_map.1 hentry
    exact hfs fact hfact
  · intro moves
    have hsound : World.Sound app { s with world := w, control := Control.answered reply }.world :=
      (ht.reachable hs).sound
    have hfollow := hagrees.follow hsound hs.sound moves
    exact ⟨State.result?_eq_of_mirrors hfollow.control hfollow.stack,
      State.handed?_eq_of_mirrors hfollow.control hfollow.stack,
      hfollow.world.effects_eq app.names⟩

/-- A worker that fails whenever it is called, and a foreman that has the worker added, though it is
registered, and a monitor as well, and then has it work again. -/
def insistence : Script.Cast where
  hierarchy := ⟨fun _ => none⟩
  names := ⟨fun _ => "Event", fun _ => .labelled "Event"⟩
  managers := [{}]
  roles := [
    some ⟨"Worker", false, [⟨⟨.invoke, .custom 0, "work"⟩, false,
      [⟨.fail ⟨"broken", []⟩, 0, none, none⟩]⟩]⟩,
    some ⟨"Foreman", false, [⟨⟨.invoke, .custom 0, "insist"⟩, false,
      [⟨.act ⟨.add 0, 0, .direct⟩ false, 0, none, none⟩,
        ⟨.act ⟨.add 2, 0, .direct⟩ false, 0, none, none⟩,
        ⟨.act ⟨.fire (.plain 0 "") .typed, 0, .direct⟩ false, 0, some 1, none⟩,
        ⟨.fail ⟨"unheard", []⟩, 0, none, none⟩]⟩]⟩,
    some ⟨"Monitor", false, [⟨⟨.invoke, .observerFailed, "watch"⟩, false, []⟩]⟩]

/-- The state in which the worker has failed once and the foreman is about to have it added. -/
def insistenceState : State Script.Note :=
  (State.start (World.after insistence.application 20 {}
    [{ operation := .add 0 }, { operation := .add 1 }])
    { operation := .fire (.plain 0 "") }).steps insistence.application 18

/-- The refused addition uses up the number that the monitor's handler would be given otherwise. The
worker's handler and its place in the guard stay as they are, so its second failure is not reported,
and the run ends with the same effects as without the addition. -/
theorem insisted_addition_without_effect :
    Reachable insistence.application insistenceState ∧
      insistenceState.control = .perform ⟨0, 0⟩ (.add 0) ∧
      insistenceState.world.guard? ⟨0, 0⟩ = some [0] ∧
      (insistenceState.step insistence.application).world.managers
        = insistenceState.world.managers ∧
      (insistenceState.step insistence.application).world.guards = insistenceState.world.guards ∧
      ((((insistenceState.step insistence.application).follow insistence.application
        (List.replicate 120 none)).world.manager 0).registry.flatMap Member.bound).map (·.id)
          = [0, 1, 3] ∧
      ((((insistenceState.leaveOut (.flag false)).follow insistence.application
        (List.replicate 120 none)).world.manager 0).registry.flatMap Member.bound).map (·.id)
          = [0, 1, 2] ∧
      ((insistenceState.step insistence.application).follow insistence.application
        (List.replicate 120 none)).result? = some (.ok (.delivered (.plain 0 ""))) ∧
      ((insistenceState.step insistence.application).follow insistence.application
        (List.replicate 120 none)).world.effects insistence.names
        = ((insistenceState.leaveOut (.flag false)).follow insistence.application
          (List.replicate 120 none)).world.effects insistence.names := by
  have hs : Reachable insistence.application insistenceState :=
    (Reachable.after _ (fun _ => .start _) (by decide +kernel)).steps 18
  have hduring : During insistence.application insistenceState
      (insistenceState.step insistence.application) := .step .refl (by decide +kernel)
  have hcontrol : insistenceState.control = .perform ⟨0, 0⟩ (.add 0) := by rfl
  have hreply : (insistenceState.step insistence.application).control
      = .answered (.flag false) := by rfl
  obtain ⟨hmanagers, hguards, -, -, hmoves⟩ :=
    hs.refused_changes_nothing hcontrol rfl hduring (by rfl) hreply (.inl rfl)
  obtain ⟨hresult, -, heffects⟩ := hmoves (List.replicate 120 none)
  refine ⟨hs, hcontrol, by decide +kernel, hmanagers, hguards, by decide +kernel,
    by decide +kernel, ?_, heffects⟩
  rw [hresult]
  decide +kernel

end EventDispatch
