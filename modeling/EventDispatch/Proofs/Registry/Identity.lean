import EventDispatch.Proofs.Registry.Coherence

/-!
# Handlers are told apart by their numbers

A state knows a handler of a manager if the handler is registered with the manager or occurs in the
control, on the stack or in the journal. The only step that makes new handlers is a registration,
and it gives them numbers that no handler had before. So two handlers that a state knows and that
have the same number are one handler of one manager (`Reachable.identified`).
-/

set_option autoImplicit false

namespace EventDispatch

variable {ν : Type} {app : Application ν}

/-- The handlers of a control, each with its manager. -/
def Control.handlers : Control ν → List (ManagerId × BoundHandler)
  | .deliver scope _ rest => rest.map (Prod.mk scope.manager)
  | .fail scope _ b _ rest => (b :: rest).map (Prod.mk scope.manager)
  | _ => []

/-- The handlers of a frame, each with its manager. -/
def Frame.handlers : Frame ν → List (ManagerId × BoundHandler)
  | .attempt scope _ b rest => (b :: rest).map (Prod.mk scope.manager)
  | .reporting scope _ b _ rest => (b :: rest).map (Prod.mk scope.manager)
  | _ => []

/-- The handler that an entry of the journal is about. -/
def Entry.handler? : Entry ν → Option (ManagerId × BoundHandler)
  | ⟨scope, .attempted _ b⟩ => some (scope.manager, b)
  | ⟨scope, .called _ b _⟩ => some (scope.manager, b)
  | ⟨scope, .succeeded _ b⟩ => some (scope.manager, b)
  | ⟨scope, .failed _ b _⟩ => some (scope.manager, b)
  | ⟨scope, .undeliverable _ b _⟩ => some (scope.manager, b)
  | ⟨scope, .handlerError _ b _⟩ => some (scope.manager, b)
  | _ => none

/-- The handlers that occur in the run so far. -/
def State.handlers (s : State ν) : List (ManagerId × BoundHandler) :=
  s.control.handlers ++ s.stack.flatMap Frame.handlers ++ s.world.read Entry.handler?

/-- Whether a handler is registered with a manager. -/
def World.HasHandler (w : World ν) (m : ManagerId) (b : BoundHandler) : Prop :=
  ∃ member ∈ (w.manager m).registry, b ∈ member.bound

/-- Whether a handler of a manager is registered or occurs in the run so far. -/
def State.Knows (s : State ν) (m : ManagerId) (b : BoundHandler) : Prop :=
  s.world.HasHandler m b ∨ (m, b) ∈ s.handlers

theorem skipsRoutine_handler? :
    World.SkipsRoutine (Entry.handler? : Entry ν → Option (ManagerId × BoundHandler)) := by
  intro scope fact h
  cases fact with
  | attempted | called | succeeded | failed | undeliverable | handlerError =>
    exact Bool.noConfusion h
  | _ => rfl

/-! ## One step -/

/-- A step brings up no handlers but those of a plan. -/
theorem Move.handlers_subset {s t : State ν} (h : Move app s t) {x : ManagerId × BoundHandler}
    (hx : x ∈ t.handlers) :
    x ∈ s.handlers ∨ ∃ scope origin event, s.control = .dispatch scope origin event ∧
      x.1 = scope.manager ∧ x.2 ∈ (s.world.resolve app scope event.type).1.toList := by
  have hf : World.SkipsRoutine (Entry.handler? : Entry ν → Option (ManagerId × BoundHandler)) :=
    skipsRoutine_handler?
  cases h with
  | dispatch w scope origin event K =>
    simp only [State.handlers, Control.handlers, w.read_launch scope hf, Entry.handler?,
      Option.toList_none, List.append_nil, List.mem_append, List.mem_map] at hx ⊢
    rcases hx with (⟨b, hb, rfl⟩ | hx) | hx
    · exact .inr ⟨scope, origin, event, rfl, rfl, hb⟩
    · exact .inl (.inl (.inr hx))
    · exact .inl (.inr hx)
  | kept w scope operation k fs reply K hop hfs | stall w scope operation k fs K hop hfs =>
    left
    rwa [State.handlers, World.read_chronicle _ _ hf hfs] at hx
  | joined w scope operation o type fs K hop htype hcheck hnew hfs =>
    left
    rwa [State.handlers, World.read_enter, World.read_join _ _ hf hfs] at hx
  | parted w scope operation o member fs K hop hmember hfs =>
    left
    rwa [State.handlers, World.read_enter, World.read_part _ _ hf hfs] at hx
  | spawned => exact .inl hx
  | rest => exact .inl hx
  | _ =>
    left
    simp only [State.handlers, Control.handlers, Frame.handlers, Entry.handler?, World.read_record,
      World.read_addFailure, World.read_enter, World.read_leave, List.flatMap_cons] at hx ⊢
    grind

namespace World

variable {w : World ν} {m : ManagerId} {b : BoundHandler}

/-- A registration adds only handlers that it makes itself. -/
theorem HasHandler.of_join {scope : Scope} {o : ObjectId} {type : ObserverType} {fs : List (Fact ν)}
    (h : ((w.join scope o type fs).enter scope).HasHandler m b) :
    w.HasHandler m b ∨ m = scope.manager ∧
      b ∈ Member.handlers o type.name type.bindings w.nextHandler := by
  obtain ⟨member, hmember, hb⟩ := h
  rw [manager_enter, manager_join] at hmember
  split at hmember
  · rename_i hm
    rcases List.mem_append.1 hmember with hold | hlast
    · exact .inl ⟨member, hold, hb⟩
    · rw [List.mem_singleton.1 hlast] at hb
      exact .inr ⟨hm, Member.mem_handlers_of_mem_bound_build hb⟩
  · exact .inl ⟨member, hmember, hb⟩

/-- A removal adds no handlers. -/
theorem HasHandler.of_part {scope : Scope} {o : ObjectId} {fs : List (Fact ν)}
    (h : ((w.part scope o fs).enter scope).HasHandler m b) : w.HasHandler m b := by
  obtain ⟨member, hmember, hb⟩ := h
  rw [manager_enter, manager_part] at hmember
  split at hmember
  · exact ⟨member, Registry.without_subset hmember, hb⟩
  · exact ⟨member, hmember, hb⟩

/-- A dispatch adds no handlers. -/
theorem HasHandler.of_launch {scope : Scope} {origin : Origin} {event : Event}
    (h : (w.launch app scope origin event).HasHandler m b) : w.HasHandler m b := by
  rwa [HasHandler, registry_launch] at h

/-- The handlers that a step makes get numbers that have not been in use. -/
theorem Tended.exists_fresh {w w' : World ν} (h : w.Tended app w') :
    w.nextHandler ≤ w'.nextHandler ∧ ∃ (m₀ : ManagerId) (fresh : List BoundHandler),
      (∀ b ∈ fresh, w.nextHandler ≤ b.id ∧ b.id < w'.nextHandler) ∧
      (∀ b ∈ fresh, ∀ b' ∈ fresh, b.id = b'.id → b = b') ∧
      ∀ m b, w'.HasHandler m b → w.HasHandler m b ∨ m = m₀ ∧ b ∈ fresh := by
  cases h with
  | same hm hn =>
    refine ⟨hn, 0, [], by simp, by simp, fun m b hb => .inl ?_⟩
    rwa [HasHandler, hm] at hb
  | launched => exact ⟨by simp, 0, [], by simp, by simp, fun m b hb => .inl hb.of_launch⟩
  | @joined scope o type fs htype hcheck hnew =>
    refine ⟨by simp, scope.manager, Member.handlers o type.name type.bindings w.nextHandler,
      fun b hb => ?_, fun b hb b' hb' heq => ?_, fun m b hb => hb.of_join⟩
    · obtain ⟨i, x, hx, rfl⟩ := (Member.mem_handlers ..).1 hb
      have hi := (List.getElem?_eq_some_iff.1 hx).1
      simp [hi]
    · obtain ⟨i, x, hx, rfl⟩ := (Member.mem_handlers ..).1 hb
      obtain ⟨j, y, hy, rfl⟩ := (Member.mem_handlers ..).1 hb'
      have hij : i = j := Nat.add_left_cancel heq
      subst hij
      rw [hx] at hy
      cases hy
      rfl
  | parted => exact ⟨by simp, 0, [], by simp, by simp, fun m b hb => .inl hb.of_part⟩

end World

/-! ## All states -/

/-- What a state knows of handlers: their numbers have been used up, and a number stands for one
handler of one manager. -/
structure State.Identified (s : State ν) : Prop where
  below : ∀ {m : ManagerId} {b : BoundHandler}, s.Knows m b → b.id < s.world.nextHandler
  unique : ∀ {m m' : ManagerId} {b b' : BoundHandler}, s.Knows m b → s.Knows m' b' →
    b.id = b'.id → m = m' ∧ b = b'

theorem Move.identified {s t : State ν} (h : Move app s t) (hsound : s.world.Sound app)
    (hs : s.Identified) : t.Identified := by
  obtain ⟨hnext, m₀, fresh, hfresh, hinj, hhas⟩ := h.tended.exists_fresh
  have hknows {m : ManagerId} {b : BoundHandler} (hb : t.Knows m b) :
      s.Knows m b ∨ m = m₀ ∧ b ∈ fresh := by
    rcases hb with hb | hb
    · exact (hhas m b hb).imp_left .inl
    · rcases h.handlers_subset hb with hb | ⟨scope, origin, event, -, hm, hb⟩
      · exact .inl (.inr hb)
      · rw [hsound.resolve_eq] at hb
        obtain rfl : m = scope.manager := hm
        exact .inl (.inl (ManagerState.mem_of_mem_currentPlan hb))
  constructor
  · intro m b hb
    rcases hknows hb with hold | ⟨-, hnew⟩
    · exact Nat.lt_of_lt_of_le (hs.below hold) hnext
    · exact (hfresh b hnew).2
  · intro m m' b b' hb hb' heq
    -- Old numbers are below the next free one, and new numbers are not.
    rcases hknows hb with hold | ⟨rfl, hnew⟩ <;> rcases hknows hb' with hold' | ⟨rfl, hnew'⟩
    · exact hs.unique hold hold' heq
    · have hlt := hs.below hold
      have hle := (hfresh b' hnew').1
      omega
    · have hlt := hs.below hold'
      have hle := (hfresh b hnew).1
      omega
    · exact ⟨rfl, hinj b hnew b' hnew' heq⟩

theorem Reachable.identified {s : State ν} (hs : Reachable app s) : s.Identified := by
  apply hs.induction (P := State.Identified)
  · -- Nothing is registered at the start of a session.
    intro command
    have hnone (m : ManagerId) (b : BoundHandler) :
        ¬ (State.start {} command : State ν).Knows m b := by
      rintro (⟨member, hmember, -⟩ | hb)
      · cases hmember
      · cases hb
    exact ⟨fun hb => absurd hb (hnone _ _), fun hb => absurd hb (hnone _ _)⟩
  · intro s t hs hmove h
    exact hmove.identified hs.sound h
  · intro s r command hs hr h
    have hknows {m : ManagerId} {b : BoundHandler} (hb : (State.start s.world command).Knows m b) :
        s.Knows m b := by
      apply hb.imp_right
      intro hb
      exact List.mem_append_right _ hb
    exact ⟨fun hb => h.below (hknows hb), fun hb hb' => h.unique (hknows hb) (hknows hb')⟩

/-- When the registration of an object is about to be announced, none of its handlers has occurred
in the run. -/
theorem Reachable.not_mem_handlers_of_added {s : State ν} (hs : Reachable app s) :
    ∀ scope o name, s.control = .dispatch scope .membership (.observerAdded o name) →
      ∀ member ∈ (s.world.manager scope.manager).registry, member.observer = o →
        ∀ b ∈ member.bound, ∀ m, (m, b) ∉ s.handlers := by
  apply hs.induction (P := fun s => ∀ scope o name,
    s.control = .dispatch scope .membership (.observerAdded o name) →
      ∀ member ∈ (s.world.manager scope.manager).registry, member.observer = o →
        ∀ b ∈ member.bound, ∀ m, (m, b) ∉ s.handlers)
  · intro command scope o name hcontrol
    cases hcontrol
  · intro s t hs hmove _ scope o name hcontrol member hmember ho b hb m hmem
    have hold := hmove.handlers_subset hmem
    cases hmove with
    | joined w scope operation o type fs K hop htype hcheck hnew =>
      cases hcontrol
      rw [World.manager_enter, World.manager_join, if_pos rfl] at hmember
      rcases List.mem_append.1 hmember with hbefore | hlast
      · -- The object had no member before.
        rw [Bool.eq_false_iff, ne_eq, Registry.holds_iff] at hnew
        exact hnew (List.mem_map.2 ⟨member, hbefore, ho⟩)
      · rw [List.mem_singleton.1 hlast] at hb
        obtain ⟨i, x, -, rfl⟩ :=
          (Member.mem_handlers ..).1 (Member.mem_handlers_of_mem_bound_build hb)
        rcases hold with hold | ⟨_, _, _, hdispatch, -⟩
        · have hbelow := hs.identified.below (.inr hold)
          exact absurd hbelow (Nat.not_lt.2 (Nat.le_add_right _ _))
        · cases hdispatch
    | rest w control K hended =>
      rw [show control = _ from hcontrol] at hended
      cases hended
    | _ => cases hcontrol
  · intro s r command _ _ _ scope o name hcontrol
    cases hcontrol

end EventDispatch
