import EventDispatch.Proofs.Failure.Undisturbed

/-!
# The cost of reports

In an undisturbed fire the journal shows how the deliveries are nested: the plan of the event is
attempted handler by handler, and a failed attempt that calls for a report is followed at once by
the whole delivery of the report. Nothing is dispatched while a report is delivered, so a fire with
`r` reports attempts its own plan once and the plan of the reports `r` times
(`Reachable.report_cost`).
-/

set_option autoImplicit false

namespace EventDispatch

variable {ν : Type} {app : Application ν}

/-! ## Beats -/

/-- An entry that says that a delivery begins, goes on to a handler or ends. -/
def Entry.beat? (entry : Entry ν) : Option (Entry ν) :=
  match entry.fact with
  | .dispatched .. | .attempted .. | .completed _ => some entry
  | _ => none

/-- The entries about how deliveries go, oldest first. -/
def State.beats (s : State ν) : List (Entry ν) := s.world.read Entry.beat?

theorem skipsRoutine_beat? : World.SkipsRoutine (Entry.beat? : Entry ν → Option (Entry ν)) := by
  intro scope fact h
  cases fact with
  | dispatched | attempted | completed => exact Bool.noConfusion h
  | _ => rfl

/-- The attempt of a handler of a plan, and the delivery of the report about it, if it has brought
one forth. -/
structure Round where
  handler : BoundHandler
  report? : Option Delivery

/-- The delivery of a report about a handler to the handlers `monitors`. -/
def Delivery.reportBeats (sc : Scope) (monitors : List BoundHandler) (b : BoundHandler)
    (d : Delivery) : List (Entry ν) :=
  ⟨sc, .dispatched (.report b.id) d⟩
    :: monitors.map (fun monitor => ⟨sc, .attempted d monitor⟩) ++ [⟨sc, .completed d⟩]

/-- The attempt of a round and the delivery of its report. -/
def Round.beats (sc : Scope) (d : Delivery) (monitors : List BoundHandler) (x : Round) :
    List (Entry ν) :=
  ⟨sc, .attempted d x.handler⟩
    :: x.report?.toList.flatMap (Delivery.reportBeats sc monitors x.handler)

/-- Whether the report of a round is about its handler, and about an error or a panic. -/
def Round.Sound (app : Application ν) (m : ManagerId) (event : Event) (x : Round) : Prop :=
  ∀ d, x.report? = some d → app.reports m event = false ∧
    ∃ failure : Failure, failure.isMechanical = false ∧
      d.event = .observerFailed x.handler.observer x.handler.descriptor event failure

/-! ## One delivery -/

/-- Whether a control is that of a handler that runs or has ended. -/
def Control.isBody : Control ν → Bool
  | .run .. | .returned _ | .unwinding _ => true
  | _ => false

/-- Where the delivery of an event stands whose handlers ask for nothing: the handlers `done` are
through, `current?` is being attempted, and `K` are the frames that the attempt has put on the
stack. -/
inductive Serving (sc : Scope) (d : Delivery) (plan done : List BoundHandler) :
    Option BoundHandler → Control ν → List (Frame ν) → Prop
  | idle {rest : List BoundHandler} (hplan : done ++ rest = plan) :
      Serving sc d plan done none (.deliver sc d rest) []
  | calling {b : BoundHandler} {rest : List BoundHandler} {control : Control ν}
      (hplan : done ++ b :: rest = plan) (hcontrol : control.isBody = true) :
      Serving sc d plan done (some b) control [.attempt sc d b rest]
  | failing {b : BoundHandler} {rest : List BoundHandler} {failure : Failure}
      (hplan : done ++ b :: rest = plan) :
      Serving sc d plan done (some b) (.fail sc d b failure rest) []

/-- What a step does to such a delivery: it goes on with the same handler, attempts the next one, is
through with a handler, turns to the report about a handler, or ends. `es` is what the step enters
about it. -/
inductive Serves (app : Application ν) (sc : Scope) (d : Delivery) (plan done : List BoundHandler)
    (control : Control ν) (K : List (Frame ν)) : Option BoundHandler → List (Entry ν) → Prop
  | stays {current? : Option BoundHandler} (h : Serving sc d plan done current? control K) :
      Serves app sc d plan done control K current? []
  | attempts {b : BoundHandler} (h : Serving sc d plan done (some b) control K) :
      Serves app sc d plan done control K none [⟨sc, .attempted d b⟩]
  | settles {b : BoundHandler} (h : Serving sc d plan (done ++ [b]) none control K) :
      Serves app sc d plan done control K (some b) []
  | reports {b : BoundHandler} {rest : List BoundHandler} {failure : Failure}
      (hplan : done ++ b :: rest = plan)
      (hcontrol : control = .dispatch sc (.report b.id)
        (.observerFailed b.observer b.descriptor d.event failure))
      (hK : K = [.reporting sc d b failure rest]) (hmechanical : failure.isMechanical = false)
      (hevent : app.reports sc.manager d.event = false) :
      Serves app sc d plan done control K (some b) []
  | ends (hplan : done = plan) (hcontrol : control = .completed) (hK : K = []) :
      Serves app sc d plan done control K none [⟨sc, .completed d⟩]

section Step

variable {t t' : State ν} {sc : Scope} {d : Delivery} {plan done : List BoundHandler}
  {current? : Option BoundHandler} {K base : List (Frame ν)}

/-- One step of an undisturbed fire, seen from a delivery with nothing but its attempt above it. -/
theorem Serving.serves (h : Serving sc d plan done current? t.control K)
    (hK : t.stack = K ++ base) (hmove : Move app t t') (hcalm : t.callsBack = false)
    (hcontain : (app.settings sc.manager).containPanics = true) :
    ∃ K' es, t'.stack = K' ++ base ∧ t'.beats = t.beats ++ es ∧
      (∀ m, t'.world.manager m = t.world.manager m) ∧
      Serves app sc d plan done t'.control K' current? es := by
  obtain ⟨w, control, stack⟩ := t
  obtain rfl : stack = K ++ base := hK
  cases h with
  | idle hplan =>
    cases hmove with
    | complete =>
      exact ⟨[], _, rfl, World.read_record .., fun m => rfl,
        .ends ((List.append_nil _).symm.trans hplan) rfl rfl⟩
    | attempt w scope d b rest part K hpart =>
      refine ⟨[.attempt sc d b rest], [⟨sc, .attempted d b⟩], rfl, ?_, fun m => rfl,
        .attempts (.calling hplan rfl)⟩
      simp [State.beats, Entry.beat?]
    | mismatch w scope d b rest K hpart =>
      exact ⟨[], _, rfl, World.read_record .., fun m => rfl, .attempts (.failing hplan)⟩
    | rest w control K hended => cases hended
  | @calling b rest control hplan hcontrol =>
    have hstays {control' : Control ν} (hbody : control'.isBody = true) :
        Serves app sc d plan done control' [.attempt sc d b rest] (some b) [] :=
      .stays (.calling hplan hbody)
    have hsame {es : List (Entry ν)} : es = es ++ [] := (List.append_nil _).symm
    cases hmove with
    | finish | panic | «recall» => exact ⟨_, [], rfl, hsame, fun m => rfl, hstays rfl⟩
    | note =>
      exact ⟨_, [], rfl, World.read_record .., fun m => rfl, hstays rfl⟩
    | call => cases hcalm
    | succeeded =>
      refine ⟨[], [], rfl, World.read_record .., fun m => rfl, .settles (.idle ?_)⟩
      rw [List.append_assoc, List.singleton_append, hplan]
    | failed => exact ⟨[], [], rfl, hsame, fun m => rfl, .stays (.failing hplan)⟩
    | panicked => exact ⟨[], [], rfl, hsame, fun m => rfl, .stays (.failing hplan)⟩
    | escape w payload scope d b rest K hescapes =>
      rw [hcontain] at hescapes
      cases hescapes
    | rest => exact ⟨_, [], rfl, hsame, fun m => rfl, hstays hcontrol⟩
    | _ => cases hcontrol
  | @failing b rest failure hplan =>
    have hthrough : (done ++ [b]) ++ rest = plan := by
      rw [List.append_assoc, List.singleton_append, hplan]
    cases hmove with
    | silent =>
      exact ⟨[], [], rfl, World.read_record .., fun m => rfl, .settles (.idle hthrough)⟩
    | undeliverable | unreported =>
      refine ⟨[], [], rfl, ?_, fun m => rfl, .settles (.idle hthrough)⟩
      simp [State.beats, Entry.beat?]
    | report w scope d b failure rest K hfailed hmechanical hevent =>
      refine ⟨[.reporting sc d b failure rest], [], rfl, ?_, fun m => rfl,
        .reports hplan rfl rfl hmechanical hevent⟩
      simp [State.beats, Entry.beat?]
    | rest w control K hended => cases hended

end Step

/-! ## The whole fire -/

/-- The entries about a dispatch and its rounds so far. -/
def timeline (sc : Scope) (origin : Origin) (d : Delivery) (monitors : List BoundHandler)
    (rounds : List Round) : List (Entry ν) :=
  ⟨sc, .dispatched origin d⟩ :: rounds.flatMap (Round.beats sc d monitors)

/-- After some rounds a handler has failed and is to be reported, and the handlers `rest` have to
wait. -/
structure Interrupted (app : Application ν) (sc : Scope) (d : Delivery) (plan : List BoundHandler)
    (rounds : List Round) (b : BoundHandler) (failure : Failure) (rest : List BoundHandler) :
    Prop where
  sound : ∀ x ∈ rounds, x.Sound app sc.manager d.event
  plan : rounds.map (·.handler) ++ b :: rest = plan
  mechanical : failure.isMechanical = false
  event : app.reports sc.manager d.event = false

/-- Where an undisturbed fire stands in a state with the frames `K` above its own, and the entries
that have been made about its deliveries. -/
inductive Standing (app : Application ν) (sc : Scope) (origin : Origin) (d : Delivery)
    (plan monitors : List BoundHandler) (t : State ν) :
    List (Frame ν) → List (Entry ν) → Prop
  | ready (hcontrol : t.control = .dispatch sc origin d.event) (hnext : t.world.nextDispatch = d.id)
      (hplan : (t.world.resolve app sc d.event.type).1.toList = plan) :
      Standing app sc origin d plan monitors t [] []
  | serving {rounds : List Round} {current? : Option BoundHandler} {K : List (Frame ν)}
      (hsound : ∀ x ∈ rounds, x.Sound app sc.manager d.event)
      (h : Serving sc d plan (rounds.map (·.handler)) current? t.control K) :
      Standing app sc origin d plan monitors t K
        (timeline sc origin d monitors rounds
          ++ current?.toList.map fun b => ⟨sc, .attempted d b⟩)
  | turning {rounds : List Round} {b : BoundHandler} {failure : Failure} {rest : List BoundHandler}
      (hinterrupted : Interrupted app sc d plan rounds b failure rest)
      (hcontrol : t.control = .dispatch sc (.report b.id)
        (.observerFailed b.observer b.descriptor d.event failure)) :
      Standing app sc origin d plan monitors t [.reporting sc d b failure rest]
        (timeline sc origin d monitors rounds ++ [⟨sc, .attempted d b⟩])
  | reporting {rounds : List Round} {b : BoundHandler} {failure : Failure}
      {rest done : List BoundHandler} {report : Delivery} {current? : Option BoundHandler}
      {K : List (Frame ν)} (hinterrupted : Interrupted app sc d plan rounds b failure rest)
      (hreport : report.event = .observerFailed b.observer b.descriptor d.event failure)
      (h : Serving sc report monitors done current? t.control K) :
      Standing app sc origin d plan monitors t (K ++ [.reporting sc d b failure rest])
        (timeline sc origin d monitors rounds ++ [⟨sc, .attempted d b⟩,
            ⟨sc, .dispatched (.report b.id) report⟩]
          ++ (done ++ current?.toList).map fun q => ⟨sc, .attempted report q⟩)
  | reported {rounds : List Round} {b : BoundHandler} {failure : Failure}
      {rest : List BoundHandler} {report : Delivery}
      (hinterrupted : Interrupted app sc d plan rounds b failure rest)
      (hreport : report.event = .observerFailed b.observer b.descriptor d.event failure)
      (hcontrol : t.control = .completed) :
      Standing app sc origin d plan monitors t [.reporting sc d b failure rest]
        (timeline sc origin d monitors (rounds ++ [⟨b, some report⟩]))
  | ended {rounds : List Round} (hsound : ∀ x ∈ rounds, x.Sound app sc.manager d.event)
      (hplan : rounds.map (·.handler) = plan) (hcontrol : t.control = .completed) :
      Standing app sc origin d plan monitors t []
        (timeline sc origin d monitors rounds ++ [⟨sc, .completed d⟩])

section Fire

variable {t t' : State ν} {sc : Scope} {origin : Origin} {d : Delivery}
  {plan monitors : List BoundHandler} {K K' base : List (Frame ν)} {es : List (Entry ν)}

theorem timeline_append (rounds : List Round) (x : Round) :
    (timeline sc origin d monitors (rounds ++ [x]) : List (Entry ν))
      = timeline sc origin d monitors rounds ++ x.beats sc d monitors := by
  simp [timeline]

/-- A dispatch is entered and its delivery begins. -/
theorem Move.beats_of_dispatch (h : Move app t t') {event : Event}
    (hcontrol : t.control = .dispatch sc origin event) :
    t'.beats = t.beats ++ [⟨sc, .dispatched origin ⟨t.world.nextDispatch, event⟩⟩] ∧
      t'.control = .deliver sc ⟨t.world.nextDispatch, event⟩
        (t.world.resolve app sc event.type).1.toList ∧
      t'.stack = t.stack ∧
      (t'.world.manager sc.manager).registry = (t.world.manager sc.manager).registry := by
  rw [h.of_dispatch hcontrol]
  exact ⟨World.read_launch _ _ skipsRoutine_beat? .., rfl, rfl, World.registry_launch ..⟩

/-- The end of a dispatch goes to the topmost frame. -/
theorem Move.of_completed (h : Move app t t') (hcontrol : t.control = .completed) :
    t' = t ∨ ∃ frame, t.stack = frame :: t'.stack ∧
      ∀ {scope : Scope} {delivery : Delivery} {b : BoundHandler} {failure : Failure}
        {rest : List BoundHandler}, frame = .reporting scope delivery b failure rest →
        t'.control = .deliver scope delivery rest ∧ t'.beats = t.beats ∧
          ∀ m, t'.world.manager m = t.world.manager m := by
  cases h with
  | close =>
    right
    exact ⟨_, rfl, nofun⟩
  | reported =>
    right
    refine ⟨_, rfl, ?_⟩
    intro scope delivery b failure rest hframe
    cases hframe
    exact ⟨rfl, (World.read_record ..).trans (List.append_nil _), fun m => rfl⟩
  | rest => exact .inl rfl
  | _ => cases hcontrol

/-- What becomes of the fire when its own delivery has taken a step. -/
theorem Serves.standing {rounds : List Round} {current? : Option BoundHandler}
    (h : Serves app sc d plan (rounds.map (·.handler)) t.control K current? es)
    (hsound : ∀ x ∈ rounds, x.Sound app sc.manager d.event) :
    Standing app sc origin d plan monitors t K
      (timeline sc origin d monitors rounds ++ current?.toList.map (fun b => ⟨sc, .attempted d b⟩)
        ++ es) := by
  cases h with
  | stays hserving =>
    rw [List.append_nil]
    exact .serving hsound hserving
  | @attempts b hserving =>
    have hstanding : Standing app sc origin d plan monitors t K
        (timeline sc origin d monitors rounds ++ [⟨sc, .attempted d b⟩]) :=
      .serving hsound hserving
    simpa using hstanding
  | @settles b hserving =>
    have hround : ∀ x ∈ rounds ++ [⟨b, none⟩], x.Sound app sc.manager d.event := by
      intro x hx
      rcases List.mem_append.1 hx with hold | hlast
      · exact hsound x hold
      · rw [List.mem_singleton.1 hlast]
        exact nofun
    have hstanding : Standing app sc origin d plan monitors t K _ :=
      .serving hround (by simpa using hserving)
    simpa [timeline_append, Round.beats] using hstanding
  | reports hplan hcontrol hframes hmechanical hevent =>
    subst hframes
    rw [List.append_nil]
    exact .turning ⟨hsound, hplan, hmechanical, hevent⟩ hcontrol
  | ends hplan hcontrol hframes =>
    subst hframes
    rw [Option.toList_none, List.map_nil, List.append_nil]
    exact .ended hsound hplan hcontrol

section Interrupted

variable {rounds : List Round} {b : BoundHandler} {failure : Failure} {rest : List BoundHandler}
  {report : Delivery} (hinterrupted : Interrupted app sc d plan rounds b failure rest)
  (hreport : report.event = .observerFailed b.observer b.descriptor d.event failure)

include hinterrupted hreport

/-- What becomes of the fire when the delivery of a report has taken a step. -/
theorem Serves.standing_of_reporting {done : List BoundHandler} {current? : Option BoundHandler}
    (h : Serves app sc report monitors done t.control K current? es)
    (hdepth : 0 < app.maxDepth sc.manager) :
    Standing app sc origin d plan monitors t (K ++ [.reporting sc d b failure rest])
      (timeline sc origin d monitors rounds
        ++ [⟨sc, .attempted d b⟩, ⟨sc, .dispatched (.report b.id) report⟩]
        ++ (done ++ current?.toList).map (fun q => ⟨sc, .attempted report q⟩) ++ es) := by
  have hreporting {done : List BoundHandler} {current? : Option BoundHandler}
      (hserving : Serving sc report monitors done current? t.control K) :
      Standing app sc origin d plan monitors t (K ++ [.reporting sc d b failure rest])
        (timeline sc origin d monitors rounds
          ++ [⟨sc, .attempted d b⟩, ⟨sc, .dispatched (.report b.id) report⟩]
          ++ (done ++ current?.toList).map (fun q => ⟨sc, .attempted report q⟩)) :=
    .reporting hinterrupted hreport hserving
  cases h with
  | stays hserving =>
    rw [List.append_nil]
    exact hreporting hserving
  | attempts hserving => simpa using hreporting hserving
  | settles hserving => simpa using hreporting hserving
  | reports _ _ _ _ hevent =>
    -- A handler that fails on a report is not reported.
    rw [Application.reports_of_type hdepth (by rw [hreport]; rfl)] at hevent
    cases hevent
  | ends hplan hcontrol hframes =>
    subst hframes hplan
    have hreported : Standing app sc origin d plan done t [.reporting sc d b failure rest] _ :=
      .reported hinterrupted hreport hcontrol
    simpa [timeline_append, Round.beats, Delivery.reportBeats] using hreported

/-- After a report the fire goes on with the handlers that have been waiting. -/
theorem Interrupted.standing_of_deliver (hcontrol : t.control = .deliver sc d rest) :
    Standing app sc origin d plan monitors t []
      (timeline sc origin d monitors (rounds ++ [⟨b, some report⟩])) := by
  have hround : ∀ x ∈ rounds ++ [⟨b, some report⟩], x.Sound app sc.manager d.event := by
    intro x hx
    rcases List.mem_append.1 hx with hold | hlast
    · exact hinterrupted.sound x hold
    · rw [List.mem_singleton.1 hlast]
      intro report' heq
      cases heq
      exact ⟨hinterrupted.event, failure, hinterrupted.mechanical, hreport⟩
  have hserving : Serving sc d plan ((rounds ++ [(⟨b, some report⟩ : Round)]).map (·.handler)) none
      t.control [] := by
    rw [hcontrol]
    refine .idle ?_
    rw [List.map_append, List.append_assoc]
    exact hinterrupted.plan
  have hstanding : Standing app sc origin d plan monitors t [] _ := .serving hround hserving
  simpa using hstanding

end Interrupted

/-- What one step of an undisturbed fire adds to the timeline. -/
theorem Standing.step (h : Standing app sc origin d plan monitors t K es)
    (hK : t.stack = K ++ base) (hK' : t'.stack = K' ++ base) (hmove : Move app t t')
    (hcalm : t.callsBack = false) (hcontain : (app.settings sc.manager).containPanics = true)
    (hdepth : 0 < app.maxDepth sc.manager)
    (hmonitors : (t.world.resolve app sc .observerFailed).1.toList = monitors) :
    ∃ fresh, t'.beats = t.beats ++ fresh ∧
      (t'.world.manager sc.manager).registry = (t.world.manager sc.manager).registry ∧
      Standing app sc origin d plan monitors t' K' (es ++ fresh) := by
  have hsame : t.beats = t.beats ++ [] := (List.append_nil _).symm
  cases h with
  | ready hcontrol hnext hplan =>
    obtain ⟨hbeats, hdeliver, hstack, hregistry⟩ := hmove.beats_of_dispatch hcontrol
    obtain rfl : K' = [] := frames_of_same hK hK' hstack
    rw [hnext] at hbeats hdeliver
    rw [hplan] at hdeliver
    have hserving : Serving sc d plan (([] : List Round).map (·.handler)) none t'.control [] := by
      rw [hdeliver]
      exact .idle rfl
    exact ⟨_, hbeats, hregistry, .serving (List.forall_mem_nil _) hserving⟩
  | serving hsound hserving =>
    obtain ⟨K₁, fresh, hK₁, hbeats, hmanagers, hserves⟩ := hserving.serves hK hmove hcalm hcontain
    obtain rfl : K₁ = K' := List.append_cancel_right (hK₁.symm.trans hK')
    exact ⟨fresh, hbeats, by rw [hmanagers], hserves.standing hsound⟩
  | @turning rounds b failure rest hinterrupted hcontrol =>
    obtain ⟨hbeats, hdeliver, hstack, hregistry⟩ := hmove.beats_of_dispatch hcontrol
    obtain rfl : K' = [.reporting sc d b failure rest] := frames_of_same hK hK' hstack
    have hserving : Serving sc
        ⟨t.world.nextDispatch, .observerFailed b.observer b.descriptor d.event failure⟩ monitors []
        none t'.control [] := by
      rw [hdeliver]
      exact .idle hmonitors
    have hreporting : Standing app sc origin d plan monitors t'
        ([] ++ [.reporting sc d b failure rest]) _ :=
      .reporting hinterrupted rfl hserving
    exact ⟨_, hbeats, hregistry, by simpa using hreporting⟩
  | @reporting rounds b failure rest done report current? K hinterrupted hreport hserving =>
    rw [List.append_assoc, List.singleton_append] at hK
    obtain ⟨K₁, fresh, hK₁, hbeats, hmanagers, hserves⟩ := hserving.serves hK hmove hcalm hcontain
    obtain rfl : K₁ ++ [.reporting sc d b failure rest] = K' := by
      apply List.append_cancel_right (hK'.symm.trans _).symm
      rw [hK₁, List.append_assoc, List.singleton_append]
    exact ⟨fresh, hbeats, by rw [hmanagers],
      hserves.standing_of_reporting hinterrupted hreport hdepth⟩
  | @reported rounds b failure rest report hinterrupted hreport hcontrol =>
    refine ⟨[], ?_⟩
    rw [List.append_nil, List.append_nil]
    rcases hmove.of_completed hcontrol with rfl | ⟨frame, hpop, hgoesOn⟩
    · obtain rfl : K' = [.reporting sc d b failure rest] := frames_of_same hK hK' rfl
      exact ⟨rfl, rfl, .reported hinterrupted hreport hcontrol⟩
    · obtain ⟨rfl, rfl⟩ := List.cons.inj (frames_of_push hK' hK hpop)
      obtain ⟨hdeliver, hbeats, hmanagers⟩ := hgoesOn rfl
      exact ⟨hbeats, by rw [hmanagers], hinterrupted.standing_of_deliver hreport hdeliver⟩
  | ended hsound hplan hcontrol =>
    refine ⟨[], ?_⟩
    rw [List.append_nil, List.append_nil]
    rcases hmove.of_completed hcontrol with rfl | ⟨frame, hpop, -⟩
    · obtain rfl : K' = [] := frames_of_same hK hK' rfl
      exact ⟨rfl, rfl, .ended hsound hplan hcontrol⟩
    · -- The end of the fire takes its own frame off.
      cases frames_of_push hK' hK hpop

end Fire

section Run

variable {s t : State ν} {sc : Scope} {origin : Origin} {event : Event}
  {plan monitors : List BoundHandler}

/-- As long as an undisturbed fire lasts, its timeline is made up of rounds. -/
theorem During.exists_standing (ht : During app s t) (hs : Reachable app s)
    (hcontrol : s.control = .dispatch sc origin event)
    (hcalm : ∀ u, During app s u → u.callsBack = false)
    (hcontain : (app.settings sc.manager).containPanics = true)
    (hdepth : 0 < app.maxDepth sc.manager)
    (hplan : (s.world.resolve app sc event.type).1.toList = plan)
    (hmonitors : (s.world.resolve app sc .observerFailed).1.toList = monitors) :
    ∃ K es, t.stack = K ++ s.stack ∧ t.beats = s.beats ++ es ∧
      Standing app sc origin ⟨s.world.nextDispatch, event⟩ plan monitors t K es := by
  obtain ⟨K, hK, es, hbeats, -, hstanding⟩ := ht.induction
    (P := fun K t => ∃ es, t.beats = s.beats ++ es ∧
      (t.world.manager sc.manager).registry = (s.world.manager sc.manager).registry ∧
      Standing app sc origin ⟨s.world.nextDispatch, event⟩ plan monitors t K es)
    ⟨[], (List.append_nil _).symm, rfl, .ready hcontrol rfl hplan⟩ (by
      rintro t t' K K' hd hd' hK hK' hmove ⟨es, hbeats, hregistry, hstanding⟩
      -- The registry is as it was at the start, so the plan for reports is the same.
      have hsame : (t.world.resolve app sc .observerFailed).1.toList = monitors := by
        rw [← hmonitors, (hd.reachable hs).sound.resolve_eq, hs.sound.resolve_eq,
          ManagerState.currentPlan_congr hregistry]
      obtain ⟨fresh, hbeats', hregistry', hstanding'⟩ :=
        hstanding.step hK hK' hmove (hcalm t hd) hcontain hdepth hsame
      refine ⟨es ++ fresh, ?_, hregistry'.trans hregistry, hstanding'⟩
      rw [hbeats', hbeats, List.append_assoc])
  exact ⟨K, es, hK, hbeats, hstanding⟩

/-- When an undisturbed fire ends every handler of its plan has had its round. -/
theorem Standing.exists_rounds {d : Delivery} {es : List (Entry ν)}
    (h : Standing app sc origin d plan monitors t [] es) (houtcome : t.control.isOutcome = true) :
    t.control = .completed ∧ ∃ rounds : List Round,
      rounds.map (·.handler) = plan ∧ (∀ x ∈ rounds, x.Sound app sc.manager d.event) ∧
      es = timeline sc origin d monitors rounds ++ [⟨sc, .completed d⟩] := by
  generalize hK : ([] : List (Frame ν)) = K at h
  cases h with
  | ready hcontrol =>
    rw [hcontrol] at houtcome
    cases houtcome
  | serving hsound hserving =>
    subst hK
    generalize t.control = control at hserving houtcome
    cases hserving <;> cases houtcome
  | ended hsound hplan hcontrol => exact ⟨hcontrol, _, hplan, hsound, rfl⟩
  | turning | reported => cases hK
  | reporting => exact absurd hK.symm (List.append_ne_nil_of_right_ne_nil _ (List.cons_ne_nil _ _))

end Run

/-! ## The cost -/

/-- The dispatch of the report of a round. -/
def Round.dispatches (sc : Scope) (x : Round) : List Begun :=
  x.report?.toList.map fun report => ⟨sc, .report x.handler.id, report.event⟩

section Cost

variable {sc : Scope} {origin : Origin} {d : Delivery} {monitors : List BoundHandler}

/-- What is read of attempts can be read of the beats. -/
theorem State.attempts_eq_beats (s : State ν) : s.attempts = s.beats.filterMap Entry.attempt? := by
  rw [attempts, beats, World.read, World.read, List.filterMap_filterMap]
  apply List.filterMap_congr
  rintro ⟨scope, fact⟩ -
  cases fact <;> rfl

/-- What is read of dispatches can be read of the beats. -/
theorem State.begun_eq_beats (s : State ν) :
    s.world.read Entry.begun? = s.beats.filterMap Entry.begun? := by
  rw [beats, World.read, World.read, List.filterMap_filterMap]
  apply List.filterMap_congr
  rintro ⟨scope, fact⟩ -
  cases fact <;> rfl

/-- The delivery of a report attempts all monitors. -/
theorem Delivery.attempts_reportBeats (report : Delivery) (b : BoundHandler) :
    ((report.reportBeats sc monitors b : List (Entry ν))).filterMap Entry.attempt?
      = monitors.map (Attempt.mk sc report) := by
  have hattempts : (monitors.map fun b => (⟨sc, .attempted report b⟩ : Entry ν)).filterMap
      Entry.attempt? = monitors.map (Attempt.mk sc report) := by
    rw [List.filterMap_map, ← List.filterMap_eq_map]
    rfl
  rw [reportBeats, List.cons_append, List.filterMap_cons_none rfl, List.filterMap_append, hattempts]
  exact List.append_nil _

/-- A round attempts its handler, and all monitors if it brings forth a report. -/
theorem Round.length_attempts (x : Round) :
    ((x.beats sc d monitors : List (Entry ν)).filterMap Entry.attempt?).length
      = 1 + (x.dispatches sc).length * monitors.length := by
  obtain ⟨b, report?⟩ := x
  cases report? with
  | none => simp [beats, dispatches, Entry.attempt?]
  | some report =>
    simp only [beats, Option.toList_some, List.flatMap_singleton, List.filterMap_cons,
      Entry.attempt?, Delivery.attempts_reportBeats, List.length_cons, List.length_map, dispatches,
      List.map_cons, List.map_nil, List.length_nil]
    omega

/-- A round dispatches its report and nothing else. -/
theorem Round.begun_beats (x : Round) :
    (x.beats sc d monitors : List (Entry ν)).filterMap Entry.begun? = x.dispatches sc := by
  obtain ⟨b, report?⟩ := x
  cases report? with
  | none => rfl
  | some report =>
    have hmonitors : (monitors.map fun monitor =>
        (⟨sc, .attempted report monitor⟩ : Entry ν)).filterMap Entry.begun? = [] := by
      rw [List.filterMap_map, List.filterMap_eq_nil_iff]
      exact fun _ _ => rfl
    simp [beats, Delivery.reportBeats, dispatches, Entry.begun?, List.filterMap_cons, hmonitors]

theorem length_attempts_timeline (rounds : List Round) :
    ((timeline sc origin d monitors rounds : List (Entry ν)).filterMap Entry.attempt?).length
      = rounds.length + (rounds.flatMap (Round.dispatches sc)).length * monitors.length := by
  rw [timeline, List.filterMap_cons_none rfl]
  induction rounds with
  | nil => simp
  | cons x rounds ih =>
    rw [List.flatMap_cons, List.filterMap_append, List.length_append, ih, x.length_attempts,
      List.flatMap_cons, List.length_append, List.length_cons, Nat.add_mul]
    omega

theorem begun_timeline (rounds : List Round) :
    (timeline sc origin d monitors rounds : List (Entry ν)).filterMap Entry.begun?
      = ⟨sc, origin, d.event⟩ :: rounds.flatMap (Round.dispatches sc) := by
  simp [timeline, Entry.begun?, List.filterMap_flatMap, Round.begun_beats]

/-- A handler is reported at most once in its round. -/
theorem length_dispatches_le (rounds : List Round) :
    (rounds.flatMap (Round.dispatches sc)).length ≤ rounds.length := by
  induction rounds with
  | nil => exact Nat.le_refl 0
  | cons x rounds ih =>
    have hone : (x.dispatches sc).length ≤ 1 := by
      rw [Round.dispatches, List.length_map]
      exact Option.length_toList_le
    rw [List.flatMap_cons, List.length_append, List.length_cons]
    omega

end Cost

/-- An outermost fire at a manager that contains panics, while no handler asks for an operation,
ends. Until then it attempts the handlers of its plan one after the other. A failed attempt brings
forth at most one report, and none if the event is a failure report itself; the report is delivered
to all handlers that are there for reports, in order, before the next handler of the plan is
attempted, and nothing is dispatched meanwhile. With `r` reports the fire makes as many attempts as
its plan has handlers and `r` times as many as there are handlers for reports. -/
theorem Reachable.report_cost {s : State ν} (hs : Reachable app s) {sc : Scope} {event : Event}
    (hfire : OutermostFire s sc event)
    (hsettings : (app.settings sc.manager).validate = .ok ())
    (hcontain : (app.settings sc.manager).containPanics = true)
    (hcalm : ∀ t, During app s t → t.callsBack = false)
    {plan monitors : List BoundHandler}
    (hplan : (s.world.resolve app sc event.type).1.toList = plan)
    (hmonitors : (s.world.resolve app sc .observerFailed).1.toList = monitors) :
    (∃ t, EndsAt app s t) ∧ ∀ t, EndsAt app s t → t.control = .completed ∧
      ∃ (origin : Origin) (rounds : List Round) (ds : List Begun),
        s.control = .dispatch sc origin event ∧
        rounds.map (·.handler) = plan ∧
        (∀ x ∈ rounds, x.Sound app sc.manager event) ∧
        t.beats = s.beats
          ++ (timeline sc origin ⟨s.world.nextDispatch, event⟩ monitors rounds
            ++ [⟨sc, .completed ⟨s.world.nextDispatch, event⟩⟩]) ∧
        t.dispatches = s.dispatches ++ ds ∧
        (∀ d ∈ ds, d.isReport = true) ∧
        t.attempts.length = s.attempts.length + (plan.length + ds.length * monitors.length) ∧
        ds.length ≤ plan.length ∧
        (app.reports sc.manager event = true → ds = []) := by
  have hdepth := Settings.validate_eq_ok_iff.1 hsettings
  obtain ⟨origin, hcontrol⟩ := hfire.control
  refine ⟨hfire.exists_endsAt hs fun t ht => State.restrained_of_calm (hcalm t ht) sc, ?_⟩
  intro t ht
  obtain ⟨K, es, hK, hbeats, hstanding⟩ :=
    ht.1.exists_standing hs hcontrol hcalm hcontain hdepth hplan hmonitors
  obtain rfl : K = [] := List.append_cancel_right (hK.symm.trans ht.stack_eq)
  obtain ⟨hcompleted, rounds, hrounds, hsound, rfl⟩ := hstanding.exists_rounds ht.isOutcome
  refine ⟨hcompleted, origin, rounds, rounds.flatMap (Round.dispatches sc), hcontrol, hrounds,
    hsound, hbeats, ?_, ?_, ?_, ?_, ?_⟩
  · rw [State.dispatches, State.dispatches, hcompleted, hcontrol, State.begun_eq_beats,
      State.begun_eq_beats, hbeats, List.filterMap_append, List.filterMap_append, begun_timeline,
      List.filterMap_cons_none rfl]
    simp [Control.begun?]
  · intro x hx
    obtain ⟨round, -, hx⟩ := List.mem_flatMap.1 hx
    obtain ⟨report, -, rfl⟩ := List.mem_map.1 hx
    rfl
  · rw [State.attempts_eq_beats, hbeats, List.filterMap_append, List.length_append,
      List.filterMap_append, List.length_append, length_attempts_timeline,
      ← State.attempts_eq_beats, ← hrounds, List.length_map]
    rfl
  · rw [← hrounds, List.length_map]
    exact length_dispatches_le rounds
  · intro hreport
    rw [List.flatMap_eq_nil_iff]
    intro x hx
    cases hx' : x.report? with
    | none => rw [Round.dispatches, hx', Option.toList_none, List.map_nil]
    | some report =>
      rw [(hsound x hx report hx').1] at hreport
      cases hreport

/-- The handlers of the monitor and of the eavesdropper, to which failure reports go. -/
def eavesdropperMonitors : List BoundHandler :=
  (eavesdropperState.world.resolve eavesdropper.application ⟨0, 0⟩ .observerFailed).1.toList

/-- The worker's failure is reported to the monitor and to the eavesdropper, and the failure of the
eavesdropper on the event is not reported: the fire makes two attempts and two more. -/
theorem eavesdropper_fire_costs_four_attempts :
    eavesdropperPlan.map (·.observer) = [0, 2] ∧ eavesdropperMonitors.map (·.observer) = [1, 2] ∧
      ∃ (rounds : List Round) (ds : List Begun),
        rounds.map (·.handler) = eavesdropperPlan ∧
        (eavesdropperState.steps eavesdropper.application 28).beats = eavesdropperState.beats
          ++ (timeline ⟨0, 0⟩ .request ⟨3, .plain 0 ""⟩ eavesdropperMonitors rounds
            ++ [⟨⟨0, 0⟩, .completed ⟨3, .plain 0 ""⟩⟩]) ∧
        ds.length = 1 ∧
        (eavesdropperState.steps eavesdropper.application 28).attempts.length
          = eavesdropperState.attempts.length + (2 + 1 * 2) := by
  obtain ⟨hs, hfire, hends, hcalm⟩ := eavesdropper_never_calls_back
  have hplan : eavesdropperPlan.map (·.observer) = [0, 2] := by decide +kernel
  have hmonitors : eavesdropperMonitors.map (·.observer) = [1, 2] := by decide +kernel
  obtain ⟨-, hcost⟩ := hs.report_cost hfire rfl rfl hcalm
    (show _ = eavesdropperPlan from rfl) (show _ = eavesdropperMonitors from rfl)
  obtain ⟨-, origin, rounds, ds, hcontrol, hrounds, -, hbeats, hds, -, hattempts, -, -⟩ :=
    hcost _ hends
  obtain rfl : origin = .request := by
    cases hcontrol
    rfl
  have hone : ds.length = 1 := by
    have hlength := congrArg List.length hds
    rw [List.length_append] at hlength
    have hbefore : eavesdropperState.dispatches.length = 4 := by decide +kernel
    have hafter : (eavesdropperState.steps eavesdropper.application 28).dispatches.length = 5 := by
      decide +kernel
    omega
  have htwo : eavesdropperPlan.length = 2 := by
    rw [← List.length_map (f := BoundHandler.observer), hplan]
    rfl
  have htwo' : eavesdropperMonitors.length = 2 := by
    rw [← List.length_map (f := BoundHandler.observer), hmonitors]
    rfl
  rw [hone, htwo, htwo'] at hattempts
  exact ⟨hplan, hmonitors, rounds, ds, hrounds, hbeats, hone, hattempts⟩

end EventDispatch
