import EventDispatch.Proofs.Delivery.Calls
import EventDispatch.Proofs.Failure.GuardLifetime
import EventDispatch.Proofs.Failure.Undisturbed
import EventDispatch.Proofs.Machine.Session

/-!
# Malformed events

Handlers are chosen by the declared types of an event, and what they are given is looked for among
the values that are embedded in it; the two need not agree. A handler whose part is missing is
passed over: the attempt counts as a failure and is warned about unless the handler has failed
before in the outermost fire under way, and the next handler takes its turn (`State.PassesOver`).
Nobody is blamed for it: what is reported, or logged as an error, is never a mismatch
(`Reachable.blamed`). All this holds of every event, whatever is embedded in it
(`Reachable.mismatches_harmless`).
-/

set_option autoImplicit false

namespace EventDispatch

variable {ν : Type} {app : Application ν}

/-! ## What an event offers -/

namespace Event

/-- Among the first `limit` values embedded in an event, the event itself included, `part` is the
first one of the type `t`. -/
def Offers (limit : Nat) (event : Event) (t : EventType) (part : Event) : Prop :=
  ∃ n < limit, event.above? n = some part ∧ part.type = t ∧
    ∀ k < n, ∀ v, event.above? k = some v → v.type ≠ t

variable {limit : Nat} {event part : Event} {t : EventType}

/-- What is looked for is found exactly if it is offered. -/
theorem ancestor?_eq_some_iff :
    event.ancestor? limit t = some part ↔ event.Offers limit t part := by
  rw [ancestor?, List.find?_eq_some_iff_getElem]
  constructor
  · rintro ⟨htype, n, hn, hpart, hearlier⟩
    rw [List.length_take] at hn
    rw [List.getElem_take] at hpart
    refine ⟨n, by omega, ?_, by simpa using htype, ?_⟩
    · rw [← getElem?_parts, ← hpart]
      exact List.getElem?_eq_getElem _
    · intro k hk v hv
      rw [← getElem?_parts] at hv
      obtain ⟨hlength, rfl⟩ := List.getElem?_eq_some_iff.1 hv
      simpa using hearlier k hk
  · rintro ⟨n, hn, hpart, htype, hearlier⟩
    rw [← getElem?_parts] at hpart
    obtain ⟨hlength, hget⟩ := List.getElem?_eq_some_iff.1 hpart
    refine ⟨by simpa using htype, n, by rw [List.length_take]; omega, by simpa using hget, ?_⟩
    intro k hk
    have hne := hearlier k hk event.parts[k]
      ((event.getElem?_parts k).symm.trans (List.getElem?_eq_getElem _))
    simpa using hne

/-- A handler bound to the universal root is given the whole event, another one what is offered. -/
theorem part?_eq_some_iff (hany : t ≠ .any) :
    event.part? limit t = some part ↔ event.Offers limit t part := by
  rw [part?, if_neg hany, ancestor?_eq_some_iff]

end Event

/-! ## The fire that a delivery belongs to -/

/-- Of the fires of a scope on a stack there is one that has no other below it. -/
theorem exists_outermost_firing {sc : Scope} {K : List (Frame ν)} (h : firesOf sc K ≠ []) :
    ∃ above outermost reply below, K = above ++ .firing sc outermost reply :: below ∧
      firesOf sc below = [] := by
  induction K with
  | nil => exact absurd rfl h
  | cons frame K ih =>
    by_cases hbelow : firesOf sc K = []
    · obtain ⟨outermost, hfire⟩ := List.exists_mem_of_ne_nil _ h
      obtain ⟨reply, hmem⟩ := mem_firesOf_iff.1 hfire
      rcases List.mem_cons.1 hmem with rfl | hlow
      · exact ⟨[], outermost, reply, K, rfl, hbelow⟩
      · have hlower : outermost ∈ firesOf sc K := mem_firesOf_iff.2 ⟨reply, hlow⟩
        rw [hbelow] at hlower
        cases hlower
    · obtain ⟨above, outermost, reply, below, rfl, hlast⟩ := ih hbelow
      exact ⟨frame :: above, outermost, reply, below, rfl, hlast⟩

/-- The step that puts the frame of a fire on the stack begins the dispatch of its event. -/
theorem Move.of_push_firing {s t : State ν} (h : Move app s t) {scope : Scope} {outermost : Bool}
    {reply : Reply} (hpush : t.stack = .firing scope outermost reply :: s.stack) :
    ∃ origin event, t.control = .dispatch scope origin event := by
  cases h with
  | joined | parted | fire =>
    cases hpush
    exact ⟨_, _, rfl⟩
  | call | caught | spawned | attempt | report => cases hpush
  | succeeded | failed | close | reported | resume | uncaught | wait | panicked | escape | abandon
      | abandonReport | contain | unwindBody | unwindThread =>
    have hlength := congrArg List.length hpush
    simp at hlength
    omega
  | _ => exact absurd hpush.symm (List.cons_ne_self _ _)

/-- What runs in a scope with a fire on the stack runs in an outermost fire of the scope. -/
theorem Reachable.exists_outermostFire {s : State ν} (hs : Reachable app s) {sc : Scope}
    (hfires : firesOf sc s.stack ≠ []) :
    ∃ s₀ event, Reachable app s₀ ∧ OutermostFire s₀ sc event ∧ During app s₀ s := by
  obtain ⟨w, command, hstart, hduring⟩ := hs.exists_start
  obtain ⟨above, outermost, reply, below, hstack, hbelow⟩ := exists_outermost_firing hfires
  obtain ⟨r, hr, hlow, hpush, hafter⟩ := hduring.exists_push hstack (Nat.zero_le _)
  obtain ⟨origin, event, hcontrol⟩ :=
    (r.move_step app).of_push_firing (hpush.trans (by rw [hlow]))
  exact ⟨r.step app, event, (hr.reachable hstart).step,
    ⟨⟨origin, hcontrol⟩, ⟨outermost, reply, below, hpush, hbelow⟩⟩, hafter⟩

theorem State.knows_of_deliver {s : State ν} {scope : Scope} {delivery : Delivery}
    {b : BoundHandler} {rest : List BoundHandler}
    (hcontrol : s.control = .deliver scope delivery (b :: rest)) : s.Knows scope.manager b := by
  right
  rw [State.handlers, hcontrol, List.append_assoc]
  exact List.mem_append_left _ List.mem_cons_self

/-- Whether a handler has failed in a scope on the way from `s` to `t`. -/
def State.failedIn (sc : Scope) (b : BoundHandler) (s t : State ν) : Bool :=
  (s.failuresIn sc t).any (·.handler = b)

/-- In an outermost fire the guard tells of a handler that a delivery still has to do with whether
the handler has failed in the fire. -/
theorem OutermostFire.hasFailed_eq {s t : State ν} {sc : Scope} {event : Event}
    (h : OutermostFire s sc event) (hs : Reachable app s) (ht : During app s t) {b : BoundHandler}
    (hb : t.Knows sc.manager b) : t.world.hasFailed sc b.id = s.failedIn sc b t := by
  have hreachable := ht.reachable hs
  rw [Bool.eq_iff_iff, World.hasFailed_iff, h.guard?_eq_failedSince hs ht, Option.getD_some,
    State.failedSince, List.mem_map, State.failedIn, List.any_eq_true]
  change (∃ a ∈ FailedAttempt.firsts (s.failuresIn sc t), a.handler.id = b.id) ↔ _
  constructor
  · rintro ⟨a, ha, hid⟩
    have hmem := FailedAttempt.mem_of_mem_firsts ha
    refine ⟨a, hmem, decide_eq_true ?_⟩
    exact (hreachable.identified.unique (State.knows_of_mem_failuresIn hmem) hb hid).2
  · rintro ⟨a, ha, hhandler⟩
    obtain ⟨first, hfirst, hid⟩ := FailedAttempt.exists_mem_firsts ha
    exact ⟨first, hfirst, hid.trans (congrArg BoundHandler.id (of_decide_eq_true hhandler))⟩

/-! ## Nobody is blamed -/

/-- The failure that an event reports. -/
def Event.cause? : Event → Option Failure
  | .observerFailed _ _ _ cause => some cause
  | _ => none

/-- The failure that an entry of the journal blames a handler for: it logs an error or begins a
report. -/
def Entry.blamed? : Entry ν → Option Failure
  | ⟨_, .handlerError _ _ failure⟩ => some failure
  | ⟨_, .dispatched (.report _) delivery⟩ => delivery.event.cause?
  | _ => none

/-- The failure whose report is about to be dispatched. -/
def Control.blamed? : Control ν → Option Failure
  | .dispatch _ (.report _) event => event.cause?
  | _ => none

/-- The failure that is to be logged when its report has been delivered. -/
def Frame.blamed? : Frame ν → Option Failure
  | .reporting _ _ _ failure _ => some failure
  | _ => none

/-- The failures that have been reported or logged as errors, and those that will be. -/
def State.blamed (s : State ν) : List Failure :=
  s.world.read Entry.blamed? ++ s.control.blamed?.toList ++ s.stack.filterMap Frame.blamed?

theorem skipsRoutine_blamed? :
    World.SkipsRoutine (Entry.blamed? : Entry ν → Option Failure) := by
  intro scope fact h
  cases fact with
  | dispatched | handlerError => exact Bool.noConfusion h
  | _ => rfl

/-- A step blames a handler for no mismatch. -/
theorem Move.blamed {s t : State ν} (h : Move app s t)
    (hs : ∀ failure ∈ s.blamed, failure.isMechanical = false) :
    ∀ failure ∈ t.blamed, failure.isMechanical = false := by
  have hf : World.SkipsRoutine (Entry.blamed? : Entry ν → Option Failure) := skipsRoutine_blamed?
  intro failure hfailure
  cases h with
  | kept w scope operation k fs reply K hop hfs | stall w scope operation k fs K hop hfs =>
    rw [State.blamed, World.read_chronicle _ _ hf hfs] at hfailure
    exact hs failure hfailure
  | joined w scope operation o type fs K hop htype hcheck hnew hfs =>
    rw [State.blamed, World.read_enter, World.read_join _ _ hf hfs] at hfailure
    exact hs failure hfailure
  | parted w scope operation o member fs K hop hmember hfs =>
    rw [State.blamed, World.read_enter, World.read_part _ _ hf hfs] at hfailure
    exact hs failure hfailure
  | dispatch w scope origin event K =>
    apply hs
    -- The report that the control was about to begin is entered into the journal.
    have hbegun : Entry.blamed? (⟨scope, .dispatched origin ⟨w.nextDispatch, event⟩⟩ : Entry ν)
        = Control.blamed? (.dispatch scope origin event : Control ν) := by
      cases origin <;> rfl
    rw [State.blamed, World.read_launch _ _ hf, hbegun] at hfailure
    simpa [State.blamed, Control.blamed?] using hfailure
  | spawned => exact hs failure hfailure
  | rest => exact hs failure hfailure
  | report w scope delivery b cause rest K hfailed hmechanical =>
    simp only [State.blamed, Control.blamed?, Frame.blamed?, Event.cause?, Entry.blamed?,
      World.read_record, World.read_addFailure, List.filterMap_cons] at hs hfailure
    grind
  | _ =>
    simp only [State.blamed, Control.blamed?, Frame.blamed?, Entry.blamed?, World.read_record,
      World.read_addFailure, World.read_enter, World.read_leave, List.filterMap_cons] at hs hfailure
    grind

/-- What is reported or logged as an error is never a mismatch. -/
theorem Reachable.blamed {s : State ν} (hs : Reachable app s) :
    ∀ failure ∈ s.blamed, failure.isMechanical = false := by
  apply hs.induction (P := fun s => ∀ failure ∈ s.blamed, failure.isMechanical = false)
  · intro command failure hfailure
    cases hfailure
  · intro s t _ hmove h
    exact hmove.blamed h
  · intro s r command _ _ h failure hfailure
    apply h failure
    rw [State.blamed, List.append_assoc]
    apply List.mem_append_left
    simpa [State.blamed, State.start, Control.blamed?] using hfailure

/-! ## One attempt -/

/-- How an attempt on an event without the part that the handler asks for fails. -/
def Attempt.mismatch (app : Application ν) (a : Attempt) : Failure :=
  .eventMismatch (app.names.eventType a.handler.eventType)
    (app.names.eventType a.delivery.event.type)

/-- From `s` to `t` an attempt has called its handler with `part`. -/
structure State.Calls (app : Application ν) (a : Attempt) (part : Event) (s t : State ν) :
    Prop where
  control : t.control = .run a.scope
    (app.program a.scope.manager a.handler.observer a.handler.binding part)
  calls : t.calls = s.calls ++ [⟨a, part⟩]

/-- From `s` to `t` an attempt has passed over its handler, and the handlers `rest` are to be
attempted next. It has failed as a mismatch, which the guard remembers, and a warning has been
logged unless the handler had failed before. Nothing has been called or dispatched. -/
structure State.PassesOver (app : Application ν) (a : Attempt) (rest : List BoundHandler)
    (failedBefore : Bool) (s t : State ν) : Prop where
  control : t.control = .deliver a.scope a.delivery rest
  stack : t.stack = s.stack
  facts : (s.since t).map (·.fact)
    = [.attempted a.delivery a.handler, .failed a.delivery a.handler (a.mismatch app)]
      ++ if failedBefore then []
        else [.undeliverable a.delivery a.handler (a.mismatch app)]
  lines : (s.since t).filterMap (fun entry => entry.fact.line? app.names)
    = if failedBefore then []
      else [⟨.warn, "Could not deliver event to observer",
        failureFields app.names a.delivery a.handler (a.mismatch app)⟩]
  calls : t.calls = s.calls
  dispatches : t.dispatches = s.dispatches
  guard : ∀ sc i, t.world.hasFailed sc i = true ↔
    s.world.hasFailed sc i = true ∨ sc = a.scope ∧ i = a.handler.id
  managers : ∀ m, t.world.manager m = s.world.manager m

section Attempt

variable {s t : State ν} {a : Attempt} {rest : List BoundHandler}

/-- An attempt calls its handler with the part that the event has for it, and fails if there is
none. -/
theorem Move.of_deliver (h : Move app s t)
    (hcontrol : s.control = .deliver a.scope a.delivery (a.handler :: rest)) :
    (∃ part, a.part? app = some part ∧ s.Calls app a part t) ∨
      a.part? app = none ∧ t = ⟨s.world.record a.scope (.attempted a.delivery a.handler),
        .fail a.scope a.delivery a.handler (a.mismatch app) rest, s.stack⟩ := by
  cases h with
  | attempt w scope delivery b rest part K hpart =>
    cases hcontrol
    refine .inl ⟨part, hpart, rfl, ?_⟩
    simp [State.calls, Entry.call?]
  | mismatch w scope delivery b rest K hpart =>
    cases hcontrol
    exact .inr ⟨hpart, rfl⟩
  | rest w control K hended =>
    rw [show control = _ from hcontrol] at hended
    cases hended
  | _ => cases hcontrol

/-- A failure that lies in the event is entered into the guard and warned about, unless the handler
has failed before. -/
theorem Move.of_fail_mechanical (h : Move app s t) {failure : Failure}
    (hcontrol : s.control = .fail a.scope a.delivery a.handler failure rest)
    (hmechanical : failure.isMechanical = true) :
    t.control = .deliver a.scope a.delivery rest ∧ t.stack = s.stack ∧
      (∀ m, t.world.manager m = s.world.manager m) ∧
      (∀ sc i, t.world.hasFailed sc i = true ↔
        s.world.hasFailed sc i = true ∨ sc = a.scope ∧ i = a.handler.id) ∧
      t.world.history = s.world.history ++ [⟨a.scope, .failed a.delivery a.handler failure⟩]
        ++ if s.world.hasFailed a.scope a.handler.id then []
          else [⟨a.scope, .undeliverable a.delivery a.handler failure⟩] := by
  cases h with
  | silent w scope delivery b failure rest K hfailed =>
    cases hcontrol
    refine ⟨rfl, rfl, fun m => rfl, ?_, by simp [hfailed]⟩
    rintro sc i
    constructor
    · exact .inl
    · rintro (hold | ⟨rfl, rfl⟩)
      · exact hold
      · exact hfailed
  | undeliverable w scope delivery b failure rest K hfailed =>
    cases hcontrol
    refine ⟨rfl, rfl, fun m => rfl, ?_, by simp [hfailed]⟩
    intro sc i
    rw [World.hasFailed_iff, World.hasFailed_iff, World.guard?_record, World.guard?_addFailure]
    by_cases hsc : sc = a.scope <;> simp [hsc]
  | unreported w scope delivery b failure rest K hfailed hreal =>
    cases hcontrol
    rw [hmechanical] at hreal
    cases hreal
  | report w scope delivery b failure rest K hfailed hreal =>
    cases hcontrol
    rw [hmechanical] at hreal
    cases hreal
  | rest w control K hended =>
    rw [show control = _ from hcontrol] at hended
    cases hended
  | _ => cases hcontrol

/-- An attempt on an event without the part that the handler asks for passes over the handler in two
steps. -/
theorem passesOver_of_part?_eq_none
    (hcontrol : s.control = .deliver a.scope a.delivery (a.handler :: rest))
    (hpart : a.part? app = none) :
    s.PassesOver app a rest (s.world.hasFailed a.scope a.handler.id) (s.steps app 2) := by
  rcases (s.move_step app).of_deliver hcontrol with ⟨part, hsome, -⟩ | ⟨-, hstep⟩
  · rw [hpart] at hsome
    cases hsome
  · have hfail :
        (s.step app).control = .fail a.scope a.delivery a.handler (a.mismatch app) rest := by
      rw [hstep]
    have hworld :
        (s.step app).world = s.world.record a.scope (.attempted a.delivery a.handler) := by
      rw [hstep]
    have hlow : (s.step app).stack = s.stack := by rw [hstep]
    obtain ⟨hdeliver, hstack, hmanagers, hguard, hhistory⟩ :=
      ((s.step app).move_step app).of_fail_mechanical hfail rfl
    have hunchanged : (s.world.record a.scope (.attempted a.delivery a.handler)).hasFailed a.scope
        a.handler.id = s.world.hasFailed a.scope a.handler.id := rfl
    rw [hworld, World.history_record, hunchanged, List.append_assoc, List.append_assoc] at hhistory
    rw [hworld] at hmanagers hguard
    rw [State.steps_succ, State.steps_succ, State.steps_zero]
    refine ⟨hdeliver, hstack.trans hlow, ?_, ?_, ?_, ?_, hguard, hmanagers⟩
    · rw [State.since_eq hhistory]
      cases s.world.hasFailed a.scope a.handler.id <;> rfl
    · rw [State.since_eq hhistory]
      cases s.world.hasFailed a.scope a.handler.id <;> rfl
    · rw [State.calls, World.read_append Entry.call? hhistory]
      cases s.world.hasFailed a.scope a.handler.id <;> exact List.append_nil _
    · rw [State.dispatches, State.dispatches, World.read_append Entry.begun? hhistory, hdeliver,
        hcontrol]
      cases s.world.hasFailed a.scope a.handler.id <;> simp [Entry.begun?, Control.begun?]

end Attempt

/-! ## The main statement -/

/-- Below a delivery there is a fire of its scope. -/
theorem Reachable.firesOf_ne_nil_of_deliver {s : State ν} (hs : Reachable app s) {scope : Scope}
    {delivery : Delivery} {handlers : List BoundHandler}
    (hcontrol : s.control = .deliver scope delivery handlers) : firesOf scope s.stack ≠ [] := by
  obtain ⟨place, hplace, hsupports⟩ := hs.nested
  rw [hcontrol] at hplace
  cases hplace
  exact hsupports.firesOf_ne_nil

/-- An attempt of a handler that is bound to the universal root calls the handler with the whole
event. An attempt of a handler bound to another type calls it exactly if among the values embedded
in the event, no deeper than the bound, there is one of that type, and with the first of these. If
there is none the handler is passed over: it counts as failed from then on, a warning is logged
unless it has failed before in the outermost fire under way, and the rest of the plan is attempted.
What is reported or logged as an error is never a mismatch. -/
theorem Reachable.mismatches_harmless {s : State ν} (hs : Reachable app s) :
    (∀ (a : Attempt) (rest : List BoundHandler),
      s.control = .deliver a.scope a.delivery (a.handler :: rest) →
      (a.handler.eventType = .any → s.Calls app a a.delivery.event (s.step app)) ∧
      (a.handler.eventType ≠ .any →
        (∀ part, a.delivery.event.Offers (app.maxDepth a.scope.manager) a.handler.eventType part
          ↔ s.Calls app a part (s.step app)) ∧
        ((∀ part, ¬ a.delivery.event.Offers (app.maxDepth a.scope.manager) a.handler.eventType
            part) →
          ∃ s₀ event, Reachable app s₀ ∧ OutermostFire s₀ a.scope event ∧ During app s₀ s ∧
            s.PassesOver app a rest (s₀.failedIn a.scope a.handler s) (s.steps app 2)))) ∧
    ∀ failure ∈ s.blamed, failure.isMechanical = false := by
  refine ⟨?_, hs.blamed⟩
  intro a rest hcontrol
  have hmove := (s.move_step app).of_deliver hcontrol
  constructor
  · intro hany
    have hwhole : a.part? app = some a.delivery.event := by
      rw [Attempt.part?, hany, Event.part?_any]
    rcases hmove with ⟨part, hpart, hcalls⟩ | ⟨hnone, -⟩
    · rw [hwhole] at hpart
      rwa [Option.some.inj hpart]
    · rw [hwhole] at hnone
      cases hnone
  · intro hany
    have hoffers (part : Event) : a.part? app = some part ↔
        a.delivery.event.Offers (app.maxDepth a.scope.manager) a.handler.eventType part :=
      Event.part?_eq_some_iff hany
    refine ⟨?_, ?_⟩
    · intro part
      rw [← hoffers]
      constructor
      · intro hpart
        rcases hmove with ⟨part', hpart', hcalls⟩ | ⟨hnone, -⟩
        · rw [hpart] at hpart'
          rwa [Option.some.inj hpart']
        · rw [hpart] at hnone
          cases hnone
      · intro hcalls
        have hmem : ⟨a, part⟩ ∈ (s.step app).calls := by
          rw [hcalls.calls]
          exact List.mem_append_right _ (List.mem_singleton_self _)
        exact (hs.step.mem_calls_iff.1 hmem).2
    · intro hnothing
      have hpart : a.part? app = none := by
        apply Option.eq_none_iff_forall_ne_some.2
        intro part hpart
        exact hnothing part ((hoffers part).1 hpart)
      have hpasses := passesOver_of_part?_eq_none hcontrol hpart
      obtain ⟨s₀, event, hs₀, hfire, hduring⟩ :=
        hs.exists_outermostFire (hs.firesOf_ne_nil_of_deliver hcontrol)
      rw [hfire.hasFailed_eq hs₀ hduring (State.knows_of_deliver hcontrol)] at hpasses
      exact ⟨s₀, event, hs₀, hfire, hduring, hpasses⟩

/-- A clerk that files values of the type above that of the event, and an archive that keeps every
event and has the event fired again once. -/
def forgery : Script.Cast where
  hierarchy := ⟨fun i => if i = 0 then some (.custom 1) else none⟩
  names := ⟨fun _ => "Event", fun _ => .labelled "Event"⟩
  managers := [{}]
  roles := [
    some ⟨"Clerk", false, [⟨⟨.invoke, .custom 1, "file"⟩, false, []⟩]⟩,
    some ⟨"Archive", false, [⟨⟨.invoke, .any, "keep"⟩, false,
      [⟨.act ⟨.fire (.extending 0 "" (.plain 2 "")) .typed, 0, .direct⟩ false, 1, some 2, none⟩]⟩]⟩]

/-- An event that embeds a value of another type than its own type declares. -/
def forgedEvent : Event := .extending 0 "" (.plain 2 "")

/-- The handler of the clerk. -/
def clerk : BoundHandler := ⟨0, 0, 0, ⟨"Clerk", "file", .invoke, .custom 1⟩⟩

/-- The handler of the archive. -/
def archive : BoundHandler := ⟨1, 1, 0, ⟨"Archive", "keep", .invoke, .any⟩⟩

/-- The state in which the forged event is about to be delivered to them. -/
def forgeryState : State Script.Note :=
  (State.start (World.after forgery.application 20 {} [{ operation := .add 0 },
    { operation := .add 1 }]) { operation := .fire forgedEvent }).steps forgery.application 3

/-- The clerk is passed over with a warning, the archive is called with the whole event, and when
the event is fired again the clerk is passed over in silence. -/
theorem forgery_passes_over_clerk_only :
    Reachable forgery.application forgeryState ∧
      ¬ forgedEvent.WellFormed forgery.application.hierarchy ∧
      forgeryState.PassesOver forgery.application ⟨⟨0, 0⟩, ⟨2, forgedEvent⟩, clerk⟩ [archive] false
        (forgeryState.steps forgery.application 2) ∧
      (forgeryState.steps forgery.application 2).Calls forgery.application
        ⟨⟨0, 0⟩, ⟨2, forgedEvent⟩, archive⟩ forgedEvent
        (forgeryState.steps forgery.application 3) ∧
      (forgeryState.steps forgery.application 10).PassesOver forgery.application
        ⟨⟨0, 0⟩, ⟨3, forgedEvent⟩, clerk⟩ [archive] true
        (forgeryState.steps forgery.application 12) := by
  have hs : Reachable forgery.application forgeryState :=
    (Reachable.after _ (fun _ => .start _) (by decide +kernel)).steps 3
  have hnothing : ∀ part, ¬ forgedEvent.Offers 32 (.custom 1) part := by
    intro part hoffers
    have hfound := Event.ancestor?_eq_some_iff.2 hoffers
    rw [show forgedEvent.ancestor? 32 (.custom 1) = none by decide +kernel] at hfound
    cases hfound
  have hpassed {k id : Nat} {failedBefore : Bool}
      (hcontrol : (forgeryState.steps forgery.application k).control
        = .deliver ⟨0, 0⟩ ⟨id, forgedEvent⟩ [clerk, archive])
      (hfailed : (forgeryState.steps forgery.application k).world.hasFailed ⟨0, 0⟩ 0
        = failedBefore) :
      (forgeryState.steps forgery.application k).PassesOver forgery.application
        ⟨⟨0, 0⟩, ⟨id, forgedEvent⟩, clerk⟩ [archive] failedBefore
        ((forgeryState.steps forgery.application k).steps forgery.application 2) := by
    obtain ⟨hattempts, -⟩ := (hs.steps k).mismatches_harmless
    obtain ⟨-, hbound⟩ := hattempts ⟨⟨0, 0⟩, ⟨id, forgedEvent⟩, clerk⟩ [archive] hcontrol
    obtain ⟨-, hmissing⟩ := hbound nofun
    obtain ⟨s₀, event, hs₀, hfire, hduring, hpasses⟩ := hmissing hnothing
    rw [← hfire.hasFailed_eq hs₀ hduring (State.knows_of_deliver hcontrol)] at hpasses
    rwa [← hfailed]
  obtain ⟨hattempts, -⟩ := (hs.steps 2).mismatches_harmless
  obtain ⟨hroot, -⟩ := hattempts ⟨⟨0, 0⟩, ⟨2, forgedEvent⟩, archive⟩ [] (by rfl)
  exact ⟨hs, by decide +kernel, hpassed (k := 0) (by rfl) (by decide +kernel), hroot rfl,
    hpassed (k := 10) (by rfl) (by decide +kernel)⟩

end EventDispatch
