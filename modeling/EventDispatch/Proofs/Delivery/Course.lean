import Mathlib.Data.List.Nodup
import EventDispatch.Proofs.Delivery.Reference

/-!
# The course of a delivery

A delivery takes one handler after the other off its plan, calls it, deals with its failure and goes
on. What is entered into the journal about the delivery and how far it is with its current handler
follow from each other turn by turn (`Turn`, `Course`), whatever is done meanwhile by the handler
that has been called or in the dispatch of a report. One step of the machine is a turn of the
innermost delivery, begins a delivery, ends the innermost one, or has to do with none
(`Move.proceeds`), so in every state all that the journal holds about a dispatch is its course, and
the current stage of a delivery under way is that to which its course has led
(`Reachable.coursed`).
-/

set_option autoImplicit false

namespace EventDispatch

variable {ν : Type} {app : Application ν}

/-! ## Stages and entries -/

/-- How far a delivery is with the handler that it took off its plan last. -/
inductive Stage where
  /-- The handler, if there was one, has been dealt with. -/
  | between
  /-- The handler has been called. -/
  | calling (handler : BoundHandler)
  /-- The attempt has failed. -/
  | failing (handler : BoundHandler) (failure : Failure)
  /-- The failure is being reported. -/
  | reporting (handler : BoundHandler) (failure : Failure)
  deriving DecidableEq, Repr

/-- The handler that is being dealt with. -/
def Stage.handler? : Stage → Option BoundHandler
  | .between => none
  | .calling b | .failing b _ | .reporting b _ => some b

/-- A delivery under way: where it is, its stage, and the handlers that are left of its plan. -/
structure Underway where
  scope : Scope
  delivery : Delivery
  stage : Stage
  rest : List BoundHandler
  deriving DecidableEq, Repr

/-- A delivery under way without its stage. -/
def Underway.pending (x : Underway) : Pending := ⟨x.scope, x.delivery, x.rest⟩

/-- The delivery that the control is busy with. -/
def Control.underway? : Control ν → Option Underway
  | .deliver scope delivery rest => some ⟨scope, delivery, .between, rest⟩
  | .fail scope delivery b failure rest => some ⟨scope, delivery, .failing b failure, rest⟩
  | _ => none

/-- The delivery that waits on the stack. -/
def Frame.underway? : Frame ν → Option Underway
  | .attempt scope delivery b rest => some ⟨scope, delivery, .calling b, rest⟩
  | .reporting scope delivery b failure rest => some ⟨scope, delivery, .reporting b failure, rest⟩
  | _ => none

/-- The deliveries under way, innermost first. -/
def State.underway (s : State ν) : List Underway :=
  s.control.underway?.toList ++ s.stack.filterMap Frame.underway?

theorem Control.underway?_map_pending (control : Control ν) :
    control.underway?.map Underway.pending = control.pending? := by
  cases control <;> rfl

theorem Frame.underway?_map_pending (frame : Frame ν) :
    frame.underway?.map Underway.pending = frame.pending? := by
  cases frame <;> rfl

theorem State.map_pending_underway (s : State ν) :
    s.underway.map Underway.pending = s.pending := by
  rw [underway, pending, List.map_append, ← s.control.underway?_map_pending]
  congr 1
  · cases s.control.underway? <;> rfl
  · rw [List.map_filterMap]
    exact congrArg (List.filterMap · s.stack) (funext Frame.underway?_map_pending)

theorem underway?_eq_none_of_isOutcome {control : Control ν} (h : control.isOutcome = true) :
    control.underway? = none := by
  cases control with
  | deliver | fail => exact Bool.noConfusion h
  | _ => rfl

/-- The delivery that a fact about an attempt belongs to. -/
def Fact.delivery? : Fact ν → Option Delivery
  | .attempted delivery _ => some delivery
  | .called delivery _ _ => some delivery
  | .succeeded delivery _ => some delivery
  | .failed delivery _ _ => some delivery
  | .undeliverable delivery _ _ => some delivery
  | .handlerError delivery _ _ => some delivery
  | _ => none

/-- An entry, if it is about an attempt of the dispatch with a number. -/
def Entry.about? (id : Nat) (entry : Entry ν) : Option (Entry ν) :=
  if entry.fact.delivery?.any (·.id = id) then some entry else none

/-- What the journal holds about the attempts of the dispatch with a number. -/
def State.course (id : Nat) (s : State ν) : List (Entry ν) := s.world.read (Entry.about? id)

theorem skipsRoutine_about? (id : Nat) :
    World.SkipsRoutine (Entry.about? id : Entry ν → Option (Entry ν)) := by
  intro scope fact h
  cases fact with
  | attempted | called | succeeded | failed | undeliverable | handlerError =>
    exact Bool.noConfusion h
  | _ => rfl

/-! ## Turns of a delivery -/

/-- A turn of a delivery, with what is entered into the journal. -/
inductive Turn (app : Application ν) : Underway → List (Entry ν) → Underway → Prop
  | called {scope : Scope} {d : Delivery} {b : BoundHandler} {rest : List BoundHandler}
      (part : Event) (hpart : d.event.part? (app.maxDepth scope.manager) b.eventType = some part) :
      Turn app ⟨scope, d, .between, b :: rest⟩
        [⟨scope, .attempted d b⟩, ⟨scope, .called d b part⟩] ⟨scope, d, .calling b, rest⟩
  | missed {scope : Scope} {d : Delivery} {b : BoundHandler} {rest : List BoundHandler}
      (expected actual : String)
      (hpart : d.event.part? (app.maxDepth scope.manager) b.eventType = none) :
      Turn app ⟨scope, d, .between, b :: rest⟩ [⟨scope, .attempted d b⟩]
        ⟨scope, d, .failing b (.eventMismatch expected actual), rest⟩
  | succeeded {scope : Scope} {d : Delivery} {b : BoundHandler} {rest : List BoundHandler} :
      Turn app ⟨scope, d, .calling b, rest⟩ [⟨scope, .succeeded d b⟩] ⟨scope, d, .between, rest⟩
  | returned {scope : Scope} {d : Delivery} {b : BoundHandler} {rest : List BoundHandler}
      (e : ErrorChain) :
      Turn app ⟨scope, d, .calling b, rest⟩ [] ⟨scope, d, .failing b (.returned e), rest⟩
  | panicked {scope : Scope} {d : Delivery} {b : BoundHandler} {rest : List BoundHandler}
      (message : String) (hcontain : (app.settings scope.manager).containPanics = true) :
      Turn app ⟨scope, d, .calling b, rest⟩ [] ⟨scope, d, .failing b (.panicked message), rest⟩
  | silent {scope : Scope} {d : Delivery} {b : BoundHandler} {failure : Failure}
      {rest : List BoundHandler} :
      Turn app ⟨scope, d, .failing b failure, rest⟩ [⟨scope, .failed d b failure⟩]
        ⟨scope, d, .between, rest⟩
  | warned {scope : Scope} {d : Delivery} {b : BoundHandler} {failure : Failure}
      {rest : List BoundHandler} (hmechanical : failure.isMechanical = true) :
      Turn app ⟨scope, d, .failing b failure, rest⟩
        [⟨scope, .failed d b failure⟩, ⟨scope, .undeliverable d b failure⟩]
        ⟨scope, d, .between, rest⟩
  | erred {scope : Scope} {d : Delivery} {b : BoundHandler} {failure : Failure}
      {rest : List BoundHandler} (hmechanical : failure.isMechanical = false) :
      Turn app ⟨scope, d, .failing b failure, rest⟩
        [⟨scope, .failed d b failure⟩, ⟨scope, .handlerError d b failure⟩]
        ⟨scope, d, .between, rest⟩
  | reporting {scope : Scope} {d : Delivery} {b : BoundHandler} {failure : Failure}
      {rest : List BoundHandler} (hmechanical : failure.isMechanical = false) :
      Turn app ⟨scope, d, .failing b failure, rest⟩ [⟨scope, .failed d b failure⟩]
        ⟨scope, d, .reporting b failure, rest⟩
  | reported {scope : Scope} {d : Delivery} {b : BoundHandler} {failure : Failure}
      {rest : List BoundHandler} :
      Turn app ⟨scope, d, .reporting b failure, rest⟩ [⟨scope, .handlerError d b failure⟩]
        ⟨scope, d, .between, rest⟩

/-- The course of a delivery from `x₀` on: what has been entered and how far it is then. -/
inductive Course (app : Application ν) (x₀ : Underway) : List (Entry ν) → Underway → Prop
  | begun : Course app x₀ [] x₀
  | turn {es fs : List (Entry ν)} {x y : Underway} : Course app x₀ es x → Turn app x fs y →
      Course app x₀ (es ++ fs) y

/-! ## What a step does -/

/-- What a step does to the deliveries under way and to what the journal holds about dispatches. -/
inductive Proceeds (app : Application ν) (s t : State ν) : Prop
  | idle (hunderway : t.underway = s.underway) (hcourse : ∀ id, t.course id = s.course id)
      (hnext : t.world.nextDispatch = s.world.nextDispatch)
      (hbegun : t.world.read Entry.begun? = s.world.read Entry.begun?)
  | begun (scope : Scope) (origin : Origin) (event : Event)
      (hunderway : t.underway = ⟨scope, ⟨s.world.nextDispatch, event⟩, .between,
        (s.world.resolve app scope event.type).1.toList⟩ :: s.underway)
      (hcourse : ∀ id, t.course id = s.course id)
      (hnext : t.world.nextDispatch = s.world.nextDispatch + 1)
      (hbegun : t.world.read Entry.begun?
        = s.world.read Entry.begun? ++ [⟨scope, origin, event⟩])
  | turned {x y : Underway} {P : List Underway} {es : List (Entry ν)} (hturn : Turn app x es y)
      (hbefore : s.underway = x :: P) (hafter : t.underway = y :: P)
      (hcourse : ∀ id, t.course id = s.course id ++ if x.delivery.id = id then es else [])
      (hnext : t.world.nextDispatch = s.world.nextDispatch)
      (hbegun : t.world.read Entry.begun? = s.world.read Entry.begun?)
  | ended {x : Underway} {P : List Underway} (hbefore : s.underway = x :: P)
      (hafter : t.underway = P) (hcourse : ∀ id, t.course id = s.course id)
      (hnext : t.world.nextDispatch = s.world.nextDispatch)
      (hbegun : t.world.read Entry.begun? = s.world.read Entry.begun?)

section Entering

variable (w : World ν) (scope : Scope) (d : Delivery) (id : Nat) {fact fact' : Fact ν}

/-- What is entered about a delivery is read back under its number only. -/
theorem World.about_record (hd : fact.delivery? = some d) :
    (w.record scope fact).read (Entry.about? id)
      = w.read (Entry.about? id) ++ if d.id = id then [⟨scope, fact⟩] else [] := by
  rw [World.read_record, Entry.about?, hd]
  by_cases hid : d.id = id <;> simp [hid]

theorem World.about_record_record (hd : fact.delivery? = some d) (hd' : fact'.delivery? = some d) :
    ((w.record scope fact).record scope fact').read (Entry.about? id)
      = w.read (Entry.about? id)
        ++ if d.id = id then [⟨scope, fact⟩, ⟨scope, fact'⟩] else [] := by
  rw [about_record _ _ d id hd', about_record _ _ d id hd]
  by_cases hid : d.id = id <;> simp [hid]

/-- A handler is entered into the guard between the two facts about its first failure. -/
theorem World.about_record_addFailure (i : Nat) (hd : fact.delivery? = some d)
    (hd' : fact'.delivery? = some d) :
    (((w.record scope fact).addFailure scope i).record scope fact').read (Entry.about? id)
      = w.read (Entry.about? id)
        ++ if d.id = id then [⟨scope, fact⟩, ⟨scope, fact'⟩] else [] := by
  rw [about_record _ _ d id hd', read_addFailure, ← about_record _ _ d id hd',
    about_record_record _ _ d id hd hd']

end Entering

theorem Move.proceeds {s t : State ν} (h : Move app s t) : Proceeds app s t := by
  have hf (id : Nat) := skipsRoutine_about? (ν := ν) id
  have hread := h.read_begun?
  -- A control that is no dispatch enters none.
  have hnone (hs : s.control.begun? = none) :
      t.world.read Entry.begun? = s.world.read Entry.begun? := by
    rw [hread, State.dispatches, hs]
    exact List.append_nil _
  cases h with
  | dispatch w scope origin event K =>
    refine .begun scope origin event rfl (fun id => ?_)
      (w.nextDispatch_launch app scope origin event) hread
    exact (w.read_launch scope (hf id) app origin event).trans (List.append_nil _)
  | attempt w scope delivery b rest part K hpart =>
    exact .turned (.called part hpart) rfl rfl
      (fun id => w.about_record_record scope _ id rfl rfl) rfl (hnone rfl)
  | mismatch w scope delivery b rest K hpart =>
    exact .turned (.missed _ _ hpart) rfl rfl (fun id => w.about_record scope _ id rfl) rfl
      (hnone rfl)
  | succeeded w scope delivery b rest K =>
    exact .turned .succeeded rfl rfl (fun id => w.about_record scope _ id rfl) rfl (hnone rfl)
  | failed w e scope delivery b rest K =>
    exact .turned (.returned e) rfl rfl (fun id => by simp [State.course]) rfl (hnone rfl)
  | panicked w payload scope delivery b rest K hcontain =>
    exact .turned (.panicked _ hcontain) rfl rfl (fun id => by simp [State.course]) rfl (hnone rfl)
  | silent w scope delivery b failure rest K =>
    exact .turned .silent rfl rfl (fun id => w.about_record scope _ id rfl) rfl (hnone rfl)
  | undeliverable w scope delivery b failure rest K hfailed hmechanical =>
    exact .turned (.warned hmechanical) rfl rfl
      (fun id => w.about_record_addFailure scope _ id b.id rfl rfl) rfl (hnone rfl)
  | unreported w scope delivery b failure rest K hfailed hmechanical hreport =>
    exact .turned (.erred hmechanical) rfl rfl
      (fun id => w.about_record_addFailure scope _ id b.id rfl rfl) rfl (hnone rfl)
  | report w scope delivery b failure rest K hfailed hmechanical hreport =>
    refine .turned (.reporting hmechanical) rfl rfl (fun id => ?_) rfl (hnone rfl)
    rw [State.course, World.read_addFailure]
    exact w.about_record scope _ id rfl
  | reported w scope delivery b failure rest K =>
    exact .turned .reported rfl rfl (fun id => w.about_record scope _ id rfl) rfl (hnone rfl)
  | complete w scope delivery K =>
    exact .ended rfl rfl (fun id => by simp [State.course, Entry.about?, Fact.delivery?]) rfl
      (hnone rfl)
  | escape => exact .ended rfl rfl (fun _ => rfl) rfl (hnone rfl)
  | abandonReport => exact .ended rfl rfl (fun _ => rfl) rfl (hnone rfl)
  | kept w scope operation k fs reply K hop hfs | stall w scope operation k fs K hop hfs =>
    exact .idle rfl (fun id => w.read_chronicle scope (hf id) hfs k) rfl (hnone rfl)
  | joined w scope operation o type fs K hop htype hcheck hnew hfs =>
    refine .idle rfl (fun id => ?_) (by simp) (hnone rfl)
    rw [State.course, World.read_enter, w.read_join scope (hf id) hfs]
    rfl
  | parted w scope operation o member fs K hop hmember hfs =>
    refine .idle rfl (fun id => ?_) (by simp) (hnone rfl)
    rw [State.course, World.read_enter, w.read_part scope (hf id) hfs]
    rfl
  | spawned => exact .idle rfl (fun _ => rfl) rfl (hnone rfl)
  | rest w control K hended =>
    exact .idle rfl (fun _ => rfl) rfl (hnone (begun?_eq_none_of_isOutcome hended))
  | _ =>
    exact .idle rfl (fun _ => by simp [State.course, Entry.about?, Fact.delivery?]) (by simp)
      (hnone rfl)

/-! ## All dispatches -/

/-- The number of a dispatch is its place among all dispatches. What the journal holds about it is
its course, which has led to its current stage if it is under way. Deliveries under way are of
different dispatches. -/
structure State.Coursed (app : Application ν) (s : State ν) : Prop where
  count : s.world.nextDispatch = (s.world.read Entry.begun?).length
  numbered : ∀ x ∈ s.underway, x.delivery.id < s.world.nextDispatch
  distinct : (s.underway.map (·.delivery.id)).Nodup
  unbegun : ∀ {id : Nat}, s.world.nextDispatch ≤ id → s.course id = []
  course : ∀ {id : Nat}, id < s.world.nextDispatch → ∃ x₀ x, x₀.stage = .between ∧
    x₀.delivery.id = id ∧
    (∃ origin, (s.world.read Entry.begun?)[id]? = some ⟨x₀.scope, origin, x₀.delivery.event⟩) ∧
    x₀.rest.Nodup ∧ Course app x₀ (s.course id) x ∧ ∀ y ∈ s.underway, y.delivery.id = id → y = x

theorem Turn.delivery_eq {x y : Underway} {es : List (Entry ν)} (h : Turn app x es y) :
    y.delivery = x.delivery := by
  cases h <;> rfl

/-- What is entered in a turn is about the delivery. -/
theorem Turn.about {x y : Underway} {es : List (Entry ν)} (h : Turn app x es y) :
    ∀ e ∈ es, e.scope = x.scope ∧ e.fact.delivery? = some x.delivery := by
  cases h <;> simp [Fact.delivery?]

namespace State.Coursed

variable {s t : State ν} (hs : s.Coursed app)

include hs

/-- The courses stay what they are if nothing is entered about any dispatch, whether a delivery ends
or not. -/
theorem of_sublist (hunderway : t.underway.Sublist s.underway)
    (hcourse : ∀ id, t.course id = s.course id)
    (hnext : t.world.nextDispatch = s.world.nextDispatch)
    (hbegun : t.world.read Entry.begun? = s.world.read Entry.begun?) : t.Coursed app := by
  constructor
  · rw [hnext, hbegun]
    exact hs.count
  · rw [hnext]
    exact fun x hx => hs.numbered x (hunderway.subset hx)
  · exact hs.distinct.sublist (hunderway.map _)
  · intro id hid
    rw [hcourse]
    exact hs.unbegun (hnext ▸ hid)
  · intro id hid
    obtain ⟨x₀, x, hstage, hx₀, hplace, hnodup, hx, hcurrent⟩ := hs.course (hnext ▸ hid)
    rw [hcourse, hbegun]
    exact ⟨x₀, x, hstage, hx₀, hplace, hnodup, hx, fun y hy => hcurrent y (hunderway.subset hy)⟩

/-- A dispatch that begins takes the next number and has its whole plan before it. -/
theorem begun {scope : Scope} {origin : Origin} {event : Event}
    (hplan : (s.world.resolve app scope event.type).1.toList.Nodup)
    (hunderway : t.underway = ⟨scope, ⟨s.world.nextDispatch, event⟩, .between,
      (s.world.resolve app scope event.type).1.toList⟩ :: s.underway)
    (hcourse : ∀ id, t.course id = s.course id)
    (hnext : t.world.nextDispatch = s.world.nextDispatch + 1)
    (hbegun : t.world.read Entry.begun? = s.world.read Entry.begun? ++ [⟨scope, origin, event⟩]) :
    t.Coursed app := by
  constructor
  · rw [hnext, hbegun, List.length_append, hs.count]
    rfl
  · rw [hunderway, hnext]
    intro x hx
    rcases List.mem_cons.1 hx with rfl | hx
    · exact Nat.lt_succ_self _
    · exact Nat.lt_succ_of_lt (hs.numbered x hx)
  · rw [hunderway, List.map_cons, List.nodup_cons]
    refine ⟨?_, hs.distinct⟩
    intro hmem
    obtain ⟨x, hx, hid⟩ := List.mem_map.1 hmem
    exact absurd (hs.numbered x hx) (by simp [hid])
  · intro id hid
    rw [hcourse]
    exact hs.unbegun (by omega)
  · intro id hid
    rw [hcourse, hunderway, hbegun]
    rcases Nat.lt_succ_iff_lt_or_eq.1 (hnext ▸ hid) with hold | rfl
    · obtain ⟨x₀, x, hstage, hx₀, ⟨origin', hplace⟩, hnodup, hx, hcurrent⟩ := hs.course hold
      refine ⟨x₀, x, hstage, hx₀, ⟨origin', ?_⟩, hnodup, hx, ?_⟩
      · rw [List.getElem?_append_left (hs.count ▸ hold)]
        exact hplace
      · rw [List.forall_mem_cons]
        exact ⟨fun hnew => absurd hold (by simp [← hnew]), hcurrent⟩
    · rw [hs.unbegun (Nat.le_refl _)]
      refine ⟨⟨scope, ⟨_, event⟩, .between, _⟩, _, rfl, rfl, ⟨origin, ?_⟩, hplan, .begun, ?_⟩
      · rw [hs.count, List.getElem?_concat_length]
      · rw [List.forall_mem_cons]
        refine ⟨fun _ => rfl, fun y hy hyid => ?_⟩
        exact absurd (hs.numbered y hy) (by simp [hyid])

/-- A turn of the innermost delivery is one of the course of its dispatch. -/
theorem turned {x y : Underway} {P : List Underway} {es : List (Entry ν)} (hturn : Turn app x es y)
    (hbefore : s.underway = x :: P) (hafter : t.underway = y :: P)
    (hcourse : ∀ id, t.course id = s.course id ++ if x.delivery.id = id then es else [])
    (hnext : t.world.nextDispatch = s.world.nextDispatch)
    (hbegun : t.world.read Entry.begun? = s.world.read Entry.begun?) : t.Coursed app := by
  have hdelivery := hturn.delivery_eq
  have hnumbered := hs.numbered
  have hdistinct := hs.distinct
  rw [hbefore, List.forall_mem_cons] at hnumbered
  rw [hbefore, List.map_cons, List.nodup_cons] at hdistinct
  constructor
  · rw [hnext, hbegun]
    exact hs.count
  · rw [hafter, hnext, List.forall_mem_cons, hdelivery]
    exact hnumbered
  · rw [hafter, List.map_cons, List.nodup_cons, hdelivery]
    exact hdistinct
  · intro id hid
    have hne : x.delivery.id ≠ id := by omega
    rw [hcourse, if_neg hne, List.append_nil]
    exact hs.unbegun (hnext ▸ hid)
  · intro id hid
    obtain ⟨x₀, z, hstage, hx₀, hplace, hnodup, hz, hcurrent⟩ := hs.course (hnext ▸ hid)
    rw [hbefore, List.forall_mem_cons] at hcurrent
    rw [hcourse, hafter, hbegun]
    by_cases hid : x.delivery.id = id
    · -- The delivery that has its turn is the current one of its dispatch.
      obtain rfl := hcurrent.1 hid
      rw [if_pos hid]
      refine ⟨x₀, y, hstage, hx₀, hplace, hnodup, hz.turn hturn, ?_⟩
      rw [List.forall_mem_cons]
      refine ⟨fun _ => rfl, fun z hz hzid => absurd ?_ hdistinct.1⟩
      rw [hid, ← hzid]
      exact List.mem_map_of_mem hz
    · rw [if_neg hid, List.append_nil]
      refine ⟨x₀, z, hstage, hx₀, hplace, hnodup, hz, ?_⟩
      rw [List.forall_mem_cons]
      exact ⟨fun hyid => absurd (hdelivery ▸ hyid) hid, hcurrent.2⟩

end State.Coursed

/-- Whatever a step is for the dispatches, it keeps their courses. -/
theorem Proceeds.coursed {s t : State ν} (h : Proceeds app s t)
    (hplan : ∀ scope event, (s.world.resolve app scope (Event.type event)).1.toList.Nodup)
    (hs : s.Coursed app) : t.Coursed app := by
  cases h with
  | idle hunderway hcourse hnext hbegun =>
    exact hs.of_sublist (hunderway ▸ List.Sublist.refl _) hcourse hnext hbegun
  | begun scope origin event hunderway hcourse hnext hbegun =>
    exact hs.begun (hplan scope event) hunderway hcourse hnext hbegun
  | turned hturn hbefore hafter hcourse hnext hbegun =>
    exact hs.turned hturn hbefore hafter hcourse hnext hbegun
  | ended hbefore hafter hcourse hnext hbegun =>
    refine hs.of_sublist ?_ hcourse hnext hbegun
    rw [hbefore, hafter]
    exact List.sublist_cons_self _ _

/-- A plan that is resolved holds no handler twice. -/
theorem World.Sound.nodup_resolve {w : World ν} (hw : w.Sound app) (scope : Scope) (event : Event) :
    (w.resolve app scope event.type).1.toList.Nodup := by
  rw [hw.resolve_eq]
  apply List.Nodup.of_map BoundHandler.place
  rw [(hw _).place_currentPlan event.type_ne_any]
  exact Application.reference_nodup _ (hw _).nodup _

@[simp] theorem State.underway_start (w : World ν) (command : Command) :
    (State.start w command).underway = [] := rfl

theorem Reachable.coursed {s : State ν} (hs : Reachable app s) : s.Coursed app := by
  apply hs.induction (P := State.Coursed app)
  · intro command
    constructor
    · rfl
    · simp
    · simp
    · intro id _
      rfl
    · intro id hid
      exact absurd hid (Nat.not_lt_zero id)
  · intro s t hs hmove h
    exact hmove.proceeds.coursed hs.sound.nodup_resolve h
  · intro s r command _ _ h
    constructor
    · exact h.count
    · simp
    · simp
    · exact h.unbegun
    · intro id hid
      obtain ⟨x₀, x, hstage, hx₀, hplace, hnodup, hx, -⟩ := h.course hid
      exact ⟨x₀, x, hstage, hx₀, hplace, hnodup, hx, by simp⟩

/-! ## What a course consists of -/

/-- The handler that an entry says has been attempted. -/
def Entry.attempted? (entry : Entry ν) : Option BoundHandler :=
  match entry.fact with
  | .attempted _ b => some b
  | _ => none

/-- The handler that an entry says has failed. -/
def Entry.failed? (entry : Entry ν) : Option BoundHandler :=
  match entry.fact with
  | .failed _ b _ => some b
  | _ => none

/-- The handler about whose failure an entry makes a log line. -/
def Entry.logged? (entry : Entry ν) : Option BoundHandler :=
  match entry.fact with
  | .undeliverable _ b _ => some b
  | .handlerError _ b _ => some b
  | _ => none

/-- The handler whose failure is being reported. -/
def Stage.reported? : Stage → Option BoundHandler
  | .reporting b _ => some b
  | _ => none

/-- A panic fails an attempt only if it is contained, and what is reported is no failure that lies
in the event. -/
def Stage.Justified (app : Application ν) (m : ManagerId) : Stage → Prop
  | .failing _ failure =>
    ∀ message, failure = .panicked message → (app.settings m).containPanics = true
  | .reporting _ failure => failure.isMechanical = false ∧
    ∀ message, failure = .panicked message → (app.settings m).containPanics = true
  | _ => True

/-- A turn goes on with the current handler or takes the next one off the plan, or it has done with
the current one. -/
inductive Turn.Reading (x : Underway) (es : List (Entry ν)) (y : Underway) : Prop
  | goesOn
      (hplan : x.stage.handler?.toList ++ x.rest = y.stage.handler?.toList ++ y.rest)
      (hattempted : x.stage.handler?.toList ++ es.filterMap Entry.attempted?
        = y.stage.handler?.toList)
      (hfailed : x.stage.reported?.toList ++ es.filterMap Entry.failed?
        = y.stage.reported?.toList)
      (hlogged : es.filterMap Entry.logged? = [])
  | done (b : BoundHandler) (hcurrent : x.stage.handler? = some b) (hstage : y.stage = .between)
      (hrest : y.rest = x.rest) (hattempted : es.filterMap Entry.attempted? = [])
      (hfailed : (x.stage.reported?.toList ++ es.filterMap Entry.failed?).Sublist [b])
      (hlogged : (es.filterMap Entry.logged?).Sublist [b])

theorem Turn.reading {x y : Underway} {es : List (Entry ν)} (h : Turn app x es y) :
    Turn.Reading x es y := by
  cases h with
  | called | missed | returned | panicked | reporting => exact .goesOn rfl rfl rfl rfl
  | @succeeded scope d b =>
    exact .done b rfl rfl rfl rfl (List.nil_sublist _) (List.nil_sublist _)
  | @silent scope d b => exact .done b rfl rfl rfl rfl (.refl _) (List.nil_sublist _)
  | @warned scope d b => exact .done b rfl rfl rfl rfl (.refl _) (.refl _)
  | @erred scope d b => exact .done b rfl rfl rfl rfl (.refl _) (.refl _)
  | @reported scope d b => exact .done b rfl rfl rfl rfl (.refl _) (.refl _)

theorem Turn.justified {x y : Underway} {es : List (Entry ν)} (h : Turn app x es y)
    (hx : x.stage.Justified app x.scope.manager) :
    y.scope = x.scope ∧ y.stage.Justified app x.scope.manager := by
  cases h with
  | missed | returned => exact ⟨rfl, nofun⟩
  | panicked message hcontain => exact ⟨rfl, fun _ _ => hcontain⟩
  | reporting hmechanical => exact ⟨rfl, hmechanical, hx⟩
  | _ => exact ⟨rfl, trivial⟩

/-- A course as the handlers show it: those that have been dealt with, the current one, and those
that are left make up the plan. Handlers fail and are logged in the order of the plan, the current
one fails only when its failure is being reported, and it is not logged before the report has
ended. -/
structure Course.Shape (app : Application ν) (x₀ : Underway) (es : List (Entry ν)) (x : Underway)
    (done : List BoundHandler) : Prop where
  scope_eq : x.scope = x₀.scope
  delivery_eq : x.delivery = x₀.delivery
  plan_eq : x₀.rest = done ++ (x.stage.handler?.toList ++ x.rest)
  attempted_eq : es.filterMap Entry.attempted? = done ++ x.stage.handler?.toList
  failed : (es.filterMap Entry.failed?).Sublist (done ++ x.stage.reported?.toList)
  logged : (es.filterMap Entry.logged?).Sublist done
  about : ∀ e ∈ es, e.scope = x₀.scope ∧ e.fact.delivery? = some x₀.delivery
  justified : x.stage.Justified app x.scope.manager

theorem Course.exists_shape {x₀ x : Underway} {es : List (Entry ν)} (h : Course app x₀ es x)
    (h₀ : x₀.stage = .between) : ∃ done, Course.Shape app x₀ es x done := by
  induction h with
  | begun =>
    refine ⟨[], rfl, rfl, ?_, ?_, List.nil_sublist _, List.nil_sublist _, by simp, ?_⟩
    · rw [h₀]
      rfl
    · rw [h₀]
      rfl
    · rw [h₀]
      trivial
  | @turn es fs x y hcourse hturn ih =>
    obtain ⟨done, ih⟩ := ih
    obtain ⟨hscope, hjustified⟩ := hturn.justified ih.justified
    have hdelivery := hturn.delivery_eq.trans ih.delivery_eq
    have habout : ∀ e ∈ es ++ fs, e.scope = x₀.scope ∧ e.fact.delivery? = some x₀.delivery := by
      refine List.forall_mem_append.2 ⟨ih.about, ?_⟩
      rw [← ih.scope_eq, ← ih.delivery_eq]
      exact hturn.about
    rw [← hscope] at hjustified
    cases hturn.reading with
    | goesOn hplan hattempted hfailed hlogged =>
      refine ⟨done, hscope.trans ih.scope_eq, hdelivery, ?_, ?_, ?_, ?_, habout, hjustified⟩
      · rw [ih.plan_eq, hplan]
      · rw [List.filterMap_append, ih.attempted_eq, List.append_assoc, hattempted]
      · rw [List.filterMap_append, ← hfailed, ← List.append_assoc]
        exact ih.failed.append (.refl _)
      · rw [List.filterMap_append, hlogged, List.append_nil]
        exact ih.logged
    | done b hcurrent hstage hrest hattempted hfailed hlogged =>
      have hplan := ih.plan_eq
      have hbefore := ih.attempted_eq
      rw [hcurrent] at hplan hbefore
      refine ⟨done ++ [b], hscope.trans ih.scope_eq, hdelivery, ?_, ?_, ?_, ?_, habout,
        hjustified⟩
      · rw [hplan, hstage, hrest, List.append_assoc]
        rfl
      · rw [List.filterMap_append, hattempted, hbefore, hstage, List.append_nil, List.append_assoc]
        rfl
      · rw [List.filterMap_append, hstage]
        have hgrown := ih.failed.append (List.Sublist.refl (fs.filterMap Entry.failed?))
        rw [List.append_assoc] at hgrown
        refine hgrown.trans ?_
        rw [List.append_assoc]
        exact (List.Sublist.refl done).append hfailed
      · rw [List.filterMap_append]
        exact ih.logged.append hlogged

/-- What has failed has been attempted, in the same order. -/
theorem Course.Shape.failed_sublist {x₀ x : Underway} {es : List (Entry ν)}
    {done : List BoundHandler} (h : Course.Shape app x₀ es x done) :
    (es.filterMap Entry.failed?).Sublist (es.filterMap Entry.attempted?) := by
  rw [h.attempted_eq]
  refine h.failed.trans ((List.Sublist.refl done).append ?_)
  cases x.stage with
  | reporting b failure => exact .refl _
  | _ => exact List.nil_sublist _

theorem Reachable.failed_sublist {s : State ν} (hs : Reachable app s) (id : Nat) :
    ((s.course id).filterMap Entry.failed?).Sublist
      ((s.course id).filterMap Entry.attempted?) := by
  rcases Nat.lt_or_ge id s.world.nextDispatch with hid | hid
  · obtain ⟨x₀, x, hstage, -, -, -, hcourse, -⟩ := hs.coursed.course hid
    obtain ⟨done, hshape⟩ := hcourse.exists_shape hstage
    exact hshape.failed_sublist
  · rw [hs.coursed.unbegun hid]
    exact .refl _

/-- The attempts of a dispatch are part of its course. -/
theorem State.map_handler_attemptsOf (id : Nat) (s : State ν) :
    (s.attemptsOf id).map (·.handler) = (s.course id).filterMap Entry.attempted? := by
  rw [attemptsOf, attempts, course, World.read, World.read, ← List.filterMap_eq_filter,
    List.filterMap_filterMap, List.map_filterMap, List.filterMap_filterMap]
  congr 1
  funext entry
  obtain ⟨scope, fact⟩ := entry
  cases fact with
  | attempted d b =>
    by_cases hid : d.id = id <;>
      simp [Entry.attempt?, Entry.about?, Entry.attempted?, Fact.delivery?, Option.guard, hid]
  | called d | succeeded d | failed d | undeliverable d | handlerError d =>
    by_cases hid : d.id = id <;>
      simp [Entry.attempt?, Entry.about?, Entry.attempted?, Fact.delivery?, hid]
  | _ => rfl

/-- The course of a delivery under way, and its plan. -/
theorem Reachable.exists_shape {s : State ν} (hs : Reachable app s) {x : Underway}
    (hx : x ∈ s.underway) :
    ∃ x₀ done, x₀.rest.Nodup ∧ Course.Shape app x₀ (s.course x.delivery.id) x done := by
  obtain ⟨x₀, y, hstage, -, -, hnodup, hcourse, hcurrent⟩ :=
    hs.coursed.course (hs.coursed.numbered x hx)
  obtain rfl := hcurrent x hx rfl
  obtain ⟨done, hshape⟩ := hcourse.exists_shape hstage
  exact ⟨x₀, done, hnodup, hshape⟩

/-- A delivery does not call a handler twice. -/
theorem Reachable.nodup_rest {s : State ν} (hs : Reachable app s) {p : Pending}
    (hp : p ∈ s.pending) : p.rest.Nodup := by
  rw [← s.map_pending_underway] at hp
  obtain ⟨y, hy, rfl⟩ := List.mem_map.1 hp
  obtain ⟨x₀, done, hnodup, hshape⟩ := hs.exists_shape hy
  rw [hshape.plan_eq, List.nodup_append, List.nodup_append] at hnodup
  exact hnodup.2.1.2.1

/-! ## While a dispatch lasts -/

section Dispatch

variable {s t : State ν} {scope : Scope} {origin : Origin} {event : Event}

/-- While a dispatch lasts nothing is entered about the dispatches before it. -/
theorem During.course_eq (ht : During app s t) (hs : Reachable app s)
    (hcontrol : s.control = .dispatch scope origin event) {id : Nat}
    (hid : id < s.world.nextDispatch) : t.course id = s.course id := by
  induction ht with
  | refl => rfl
  | @step t ht hlength ih =>
    rw [← ih]
    obtain ⟨K, hK, hprogress⟩ := hs.progress hcontrol ht
    have hmove := t.move_step app
    -- A dispatch that has ended stays as it is until its frame is taken off.
    have hstays (hnil : K = [])
        (hended : t.control = .completed ∨ ∃ payload, t.control = .unwinding payload) :
        t.step app = t := by
      rcases hmove.pops_of_ended hended with heq | ⟨frame, heq⟩
      · exact heq
      · have hstack := congrArg List.length (hK.symm.trans heq)
        rw [hnil, List.nil_append, List.length_cons] at hstack
        omega
    cases hprogress with
    | ready heq =>
      subst heq
      rw [hmove.of_dispatch hcontrol]
      exact (World.read_launch _ _ (skipsRoutine_about? id) _ _ _).trans (List.append_nil _)
    | running done rest above hplan hpending hlater =>
      cases hmove.proceeds with
      | idle _ hcourse => exact hcourse id
      | begun _ _ _ _ hcourse => exact hcourse id
      | ended _ _ hcourse => exact hcourse id
      | @turned x y P es _ hbefore _ hcourse =>
        -- The delivery that has its turn is that of the dispatch or of a later one.
        have hx : id < x.delivery.id := by
          rw [← t.map_pending_underway, hbefore] at hpending
          cases above with
          | nil =>
            have hdelivery := congrArg Pending.delivery (List.cons.inj hpending).1
            rw [show x.delivery.id = s.world.nextDispatch from congrArg Delivery.id hdelivery]
            exact hid
          | cons p above =>
            rw [← (List.cons.inj hpending).1] at hlater
            exact Nat.lt_trans hid (hlater _ List.mem_cons_self)
        rw [hcourse, if_neg (Nat.ne_of_gt hx), List.append_nil]
    | completed hnil hcompleted => rw [hstays hnil (.inl hcompleted)]
    | abandoned hnil _ hunwinding => rw [hstays hnil (.inr ⟨_, hunwinding⟩)]

/-- What is entered about attempts while a dispatch lasts is about the dispatch or about those that
have begun in it. -/
theorem During.about (ht : During app s t) (hs : Reachable app s)
    (hcontrol : s.control = .dispatch scope origin event) {ds : List Begun}
    (hds : t.dispatches = s.dispatches ++ ds) {e : Entry ν} (he : e ∈ s.since t) {d : Delivery}
    (hd : e.fact.delivery? = some d) :
    e.scope = scope ∧ d = ⟨s.world.nextDispatch, event⟩ ∨
      s.world.nextDispatch < d.id ∧ ∃ x ∈ ds, x.scope = e.scope ∧ x.event = d.event := by
  have habout : Entry.about? d.id e = some e := by
    rw [Entry.about?, hd]
    simp
  have hsince : t.course d.id = s.course d.id ++ (s.since t).filterMap (Entry.about? d.id) :=
    State.read_since _ ht.history_grows
  have hmem : e ∈ (s.since t).filterMap (Entry.about? d.id) := List.mem_filterMap.2 ⟨e, he, habout⟩
  have hnext : s.world.nextDispatch ≤ d.id := by
    apply Nat.le_of_not_lt
    intro hlt
    rw [ht.course_eq hs hcontrol hlt] at hsince
    have hnil := List.append_cancel_left ((List.append_nil _).trans hsince)
    rw [← hnil] at hmem
    cases hmem
  -- The number of the delivery says which dispatch it belongs to.
  have hcoursed := (ht.reachable hs).coursed
  have hcourse : e ∈ t.course d.id := by
    rw [hsince]
    exact List.mem_append_right _ hmem
  have hlt : d.id < t.world.nextDispatch := by
    apply Nat.lt_of_not_le
    intro hle
    rw [hcoursed.unbegun hle] at hcourse
    cases hcourse
  obtain ⟨x₀, x, hstage, -, ⟨origin', hplace⟩, -, hx, -⟩ := hcoursed.course hlt
  obtain ⟨done, hshape⟩ := hx.exists_shape hstage
  obtain ⟨hscope, hdelivery⟩ := hshape.about e hcourse
  obtain rfl : d = x₀.delivery := Option.some.inj (hd.symm.trans hdelivery)
  have hdispatches : t.dispatches[x₀.delivery.id]?
      = some ⟨x₀.scope, origin', x₀.delivery.event⟩ := by
    rw [State.dispatches, List.getElem?_append_left, hplace]
    exact hcoursed.count ▸ hlt
  have hbefore : s.dispatches = s.world.read Entry.begun? ++ [⟨scope, origin, event⟩] := by
    rw [State.dispatches, hcontrol]
    rfl
  rw [hds, hbefore] at hdispatches
  rcases Nat.lt_or_eq_of_le hnext with hlater | hown
  · right
    refine ⟨hlater, ?_⟩
    rw [List.getElem?_append_right] at hdispatches
    · exact ⟨_, List.mem_of_getElem? hdispatches, hscope.symm, rfl⟩
    · rw [List.length_append, ← hs.coursed.count]
      exact hlater
  · left
    rw [← hown, hs.coursed.count, List.getElem?_append_left (by simp),
      List.getElem?_concat_length] at hdispatches
    cases hdispatches
    exact ⟨hscope, by rw [hown]⟩

end Dispatch

end EventDispatch
