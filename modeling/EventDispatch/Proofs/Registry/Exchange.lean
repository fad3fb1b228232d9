import EventDispatch.Proofs.Machine.Effects
import EventDispatch.Proofs.Registry.Membership
import EventDispatch.Script.Handler

/-!
# Two ways of asking for a change

An object of an announced type may be registered as an observer or as a component, and any object
may be removed either way. The way makes no difference but for a preliminary fact
(`World.Agrees.add_addComponent`), so a run in which any of these operations are exchanged for their
other forms, whoever asks for them, goes on as the run in which they are not
(`State.Agrees.follow_exchanging`). An object of another type is never registered as a component,
but it may be removed as one.
-/

set_option autoImplicit false

namespace EventDispatch

variable {ν β : Type} {app : Application ν} {f : Nat → Nat}

/-! ## The look-up of a component's type -/

/-- Whether an object is of an announced type. -/
def Application.announces (app : Application ν) (o : ObjectId) : Bool :=
  (app.observerType? o).any (·.announced)

/-- The collected types are the announced ones among those of the objects. -/
def Application.Collects (app : Application ν) (collected : List ObserverType) : Prop :=
  ∀ o type, app.observerType? o = some type → (type ∈ collected ↔ type.announced = true)

/-- The first of the collected types that an object is of. -/
def Application.capability? (app : Application ν) (collected : List ObserverType) (o : ObjectId) :
    Option ObserverType :=
  collected.find? (app.observerType? o = some ·)

/-- Registers an object as a component by looking its type up among the collected ones. What is
found describes the object only if the object is of that type. -/
def World.addCollected (app : Application ν) (collected : List ObserverType) (w : World ν)
    (scope : Scope) (o : ObjectId) : World.Change × World ν :=
  match app.capability? collected o with
  | none => (.none, w.record scope .notAnnounced)
  | some type =>
    if app.observerType? o = some type then
      (w.record scope (.described type.name)).register app scope o type
    else (.none, w.record scope (.ignored (.notAnObserver type.name)))

/-- The look-up finds the type of an object if that is announced, and nothing otherwise. -/
theorem Application.capability?_eq {collected : List ObserverType} (h : app.Collects collected)
    (o : ObjectId) :
    app.capability? collected o = (app.observerType? o).filter (·.announced) := by
  have his {type : ObserverType} (hfound : app.capability? collected o = some type) :
      app.observerType? o = some type :=
    of_decide_eq_true (List.find?_some (p := fun t => decide (app.observerType? o = some t)) hfound)
  apply Option.ext
  intro type
  rw [Option.filter_eq_some_iff]
  constructor
  · intro hfound
    have htype := his hfound
    exact ⟨htype, (h o type htype).1 (List.mem_of_find?_eq_some hfound)⟩
  · rintro ⟨htype, hannounced⟩
    -- Something is found, and only the type of the object can be.
    have hsome : (app.capability? collected o).isSome = true :=
      List.find?_isSome.2 ⟨type, (h o type htype).2 hannounced, decide_eq_true htype⟩
    obtain ⟨found, hfound⟩ := Option.isSome_iff_exists.1 hsome
    obtain rfl := Option.some_inj.1 (htype.symm.trans (his hfound))
    exact hfound

theorem World.addCollected_eq {collected : List ObserverType} (h : app.Collects collected)
    (w : World ν) (scope : Scope) (o : ObjectId) :
    w.addCollected app collected scope o = w.addComponent app scope o := by
  unfold addCollected addComponent
  rw [Application.capability?_eq h]
  cases htype : (app.observerType? o).filter (·.announced) with
  | none => rfl
  | some type => exact if_pos (Option.filter_eq_some_iff.1 htype).1

/-! ## One operation -/

/-- The other form of an operation: an object of an announced type may be registered either way,
and any object may be removed either way. -/
def Operation.exchanged (app : Application ν) : Operation → Operation
  | .add o => if app.announces o then .addComponent o else .add o
  | .addComponent o => if app.announces o then .add o else .addComponent o
  | .remove o => .removeComponent o
  | .removeComponent o => .remove o
  | operation => operation

namespace World.Agrees

variable {w w' : World ν} {scope : Scope} (h : w.Agrees .whole f w')

include h

/-- The description of a component is a preliminary fact. -/
theorem described (name : String) : w.Agrees .whole f (w'.record scope (.described name)) := by
  refine ⟨h.registry, h.cached, h.guard, ?_, h.thread, h.fresh, h.injective⟩
  rw [read_record, h.seen]
  exact (List.append_nil _).symm

theorem described_left (name : String) :
    (w.record scope (.described name)).Agrees .whole f w' := by
  refine ⟨h.registry, h.cached, h.guard, ?_, h.thread, h.fresh, h.injective⟩
  rw [read_record, ← h.seen]
  exact List.append_nil _

variable {o : ObjectId} (hannounced : app.announces o = true)

include hannounced

/-- Registering an object of an announced type as a component does what registering it as an
observer does. -/
theorem add_addComponent :
    Change.Agrees .whole f (w.add app scope o) (w'.addComponent app scope o) := by
  obtain ⟨type, htype, htrue⟩ := (Option.any_eq_true _ _).1 hannounced
  have hfound : (app.observerType? o).filter (·.announced) = some type :=
    Option.filter_eq_some_iff.2 ⟨htype, htrue⟩
  unfold World.add World.addComponent
  rw [hfound, htype]
  exact (h.described type.name).register trivial o type

theorem addComponent_add :
    Change.Agrees .whole f (w.addComponent app scope o) (w'.add app scope o) := by
  obtain ⟨type, htype, htrue⟩ := (Option.any_eq_true _ _).1 hannounced
  have hfound : (app.observerType? o).filter (·.announced) = some type :=
    Option.filter_eq_some_iff.2 ⟨htype, htrue⟩
  unfold World.add World.addComponent
  rw [hfound, htype]
  exact (h.described_left type.name).register trivial o type

end World.Agrees

/-! ## A run with exchanged operations -/

namespace State

/-- The state in which the operation that is about to be carried out is exchanged for its other
form. -/
def exchanged (app : Application ν) (s : State ν) : State ν :=
  match s.control with
  | .perform scope operation => { s with control := .perform scope (operation.exchanged app) }
  | _ => s

/-- The state after one step or at the start of another command, as in `proceed`. The operation of
the step may be exchanged. -/
def proceedExchanging (app : Application ν) (s : State ν) (move : Bool × Option Command) :
    State ν :=
  match move with
  | (true, none) => (s.exchanged app).step app
  | (_, move) => s.proceed app move

/-- The state after several of these, one after the other. -/
def followExchanging (app : Application ν) (s : State ν) (moves : List (Bool × Option Command)) :
    State ν :=
  moves.foldl (proceedExchanging app) s

theorem sound_exchanged {s : State ν} (hs : s.world.Sound app) :
    (s.exchanged app).world.Sound app := by
  unfold exchanged
  split <;> exact hs

theorem sound_proceedExchanging {s : State ν} (hs : s.world.Sound app)
    (move : Bool × Option Command) : (s.proceedExchanging app move).world.Sound app := by
  unfold proceedExchanging
  split
  · exact sound_step (sound_exchanged hs)
  · exact sound_proceed hs _

namespace Agrees

variable {s s' : State ν}

/-- Carrying out the other form of an operation does the same. -/
theorem perform_exchanged {w w' : World ν} {K K' : List (Frame ν)} {scope : Scope}
    (hworld : w.Agrees .whole f w') (hstack : List.Forall₂ (Frame.Mirrors f) K K')
    (control control' : Control ν) (operation : Operation) :
    Agrees .whole f ((⟨w, control, K⟩ : State ν).perform app scope operation)
      ((⟨w', control', K'⟩ : State ν).perform app scope (operation.exchanged app)) := by
  cases operation with
  | add o =>
    rw [Operation.exchanged]
    split
    · rename_i hannounced
      exact conclude hstack trivial control control' _ (hworld.add_addComponent hannounced)
    · exact perform hworld hstack trivial control control' (.add o)
  | addComponent o =>
    rw [Operation.exchanged]
    split
    · rename_i hannounced
      exact conclude hstack trivial control control' _ (hworld.addComponent_add hannounced)
    · exact perform hworld hstack trivial control control' (.addComponent o)
  | remove o | removeComponent o =>
    exact conclude hstack trivial control control' _ (hworld.remove trivial o)
  | isRegistered | fire | status => exact perform hworld hstack trivial control control' _

theorem step_exchanged (h : s.Agrees .whole f s') (hs : s.world.Sound app)
    (hs' : s'.world.Sound app) : (s.step app).Agrees .whole f ((s'.exchanged app).step app) := by
  obtain ⟨w, control, K⟩ := s
  obtain ⟨w', control', K'⟩ := s'
  cases h.control with
  | perform scope operation =>
    exact perform_exchanged h.world h.stack _ _ operation
  | _ => exact h.proceed hs hs' none

/-- A run with exchanged operations goes on as the run without. -/
theorem follow_exchanging (h : s.Agrees .whole f s') (hs : s.world.Sound app)
    (hs' : s'.world.Sound app) (moves : List (Bool × Option Command)) :
    (s.follow app (moves.map (·.2))).Agrees .whole f (s'.followExchanging app moves) := by
  induction moves generalizing s s' with
  | nil => exact h
  | cons move moves ih =>
    refine ih ?_ (sound_proceed hs move.2) (sound_proceedExchanging hs' move)
    obtain ⟨exchange, command⟩ := move
    cases exchange with
    | false => exact h.proceed hs hs' command
    | true =>
      cases command with
      | none => exact h.step_exchanged hs hs'
      | some command => exact h.proceed hs hs' (some command)

end Agrees

end State

/-! ## What the exchange leaves as it was -/

theorem World.Agrees.empty (V : View ν β) : ({} : World ν).Agrees V id {} :=
  ⟨fun _ _ => .nil, fun _ _ => rfl, fun _ _ => rfl, rfl, fun _ => rfl, fun _ => rfl,
    Function.injective_id⟩

/-- A component of an unannounced type is turned away at once. -/
theorem State.step_of_unannounced {s : State ν} {scope : Scope} {o : ObjectId}
    (hcontrol : s.control = .perform scope (.addComponent o)) (ho : app.announces o = false) :
    s.step app = { s with
      world := s.world.record scope .notAnnounced
      control := .answered (.flag false) } := by
  obtain ⟨w, control, K⟩ := s
  subst hcontrol
  have hnone : (app.observerType? o).filter (·.announced) = none := by
    rw [Option.filter_eq_none_iff]
    intro type htype hannounced
    rw [Application.announces, htype] at ho
    exact Bool.false_ne_true (ho.symm.trans hannounced)
  have hadd : w.addComponent app scope o = (.none, w.record scope .notAnnounced) := by
    rw [World.addComponent, hnone]
  show State.conclude ⟨w, _, K⟩ scope (.observerAdded o) (w.addComponent app scope o) = _
  rw [hadd]
  rfl

/-- A registered object, whichever way it has been registered, is removed as a component. -/
theorem Reachable.step_of_removeComponent {s : State ν} (hs : Reachable app s) {scope : Scope}
    {o : ObjectId} (hcontrol : s.control = .perform scope (.removeComponent o))
    (hholds : (s.world.manager scope.manager).registry.holds o = true) :
    ((s.step app).world.manager scope.manager).registry
        = (s.world.manager scope.manager).registry.without o ∧
      ((s.step app).world.manager scope.manager).registry.holds o = false := by
  have hnodup := hs.nodup_objects scope.manager
  obtain ⟨w, control, K⟩ := s
  subst hcontrol
  obtain ⟨member, hmember⟩ := Option.isSome_iff_exists.1 hholds
  have hremove : w.remove scope o = (.made member.observerType,
      w.part scope o [.unregistered member.observerType]) := by
    unfold World.remove
    dsimp only at hmember ⊢
    rw [hmember]
    dsimp only
    rw [World.record_eq_chronicle]
    rfl
  have hregistry : ((State.step app ⟨w, .perform scope (.removeComponent o), K⟩).world.manager
      scope.manager).registry = (w.manager scope.manager).registry.without o := by
    show ((State.conclude ⟨w, _, K⟩ scope (.observerRemoved o) (w.remove scope o)).world.manager
      scope.manager).registry = _
    rw [hremove]
    show (((w.part scope o _).enter scope).manager scope.manager).registry = _
    rw [World.manager_enter, World.manager_part, if_pos rfl]
  refine ⟨hregistry, ?_⟩
  rw [hregistry, ← Bool.not_eq_true, Registry.holds_iff, Registry.objects_without]
  exact hnodup.not_mem_erase

/-- **Either way of asking.** Suppose that exactly the announced types of objects are collected, so
that a component is registered by looking its type up among them. Exchanging any of the operations
that register an object of an announced type or remove an object for their other forms, whenever one
is about to be carried out, leaves the results of commands and the replies that handlers are given,
the registries, the types with a plan at hand, and the effects as they are without the exchange. A
component of an unannounced type is turned away in every state, with `false` for a reply and nothing
changed; if such an object is registered all the same, removing it as a component takes it out, and
the reply is `true`. -/
theorem Application.either_way_the_same (app : Application ν) {collected : List ObserverType}
    (hcollects : app.Collects collected) :
    (∀ (w : World ν) (scope : Scope) (o : ObjectId),
      w.addComponent app scope o = w.addCollected app collected scope o) ∧
    (∀ (command : Command) (moves : List (Bool × Option Command)),
      let t := (State.start ({} : World ν) command).follow app (moves.map (·.2))
      let t' := (State.start ({} : World ν) command).followExchanging app moves
      t'.result? = t.result? ∧ t'.handed? = t.handed? ∧
      (∀ m, (t'.world.manager m).registry = (t.world.manager m).registry ∧
        (t'.world.manager m).cache.keys = (t.world.manager m).cache.keys) ∧
      t'.world.effects app.names = t.world.effects app.names) ∧
    ∀ o, app.announces o = false →
      (∀ (s : State ν) (scope : Scope), s.control = .perform scope (.addComponent o) →
        s.step app = { s with
          world := s.world.record scope .notAnnounced
          control := .answered (.flag false) }) ∧
      ∀ (s : State ν) (scope : Scope), Reachable app s →
        s.control = .perform scope (.removeComponent o) →
        (s.world.manager scope.manager).registry.holds o = true →
        ((s.step app).world.manager scope.manager).registry
            = (s.world.manager scope.manager).registry.without o ∧
          ((s.step app).world.manager scope.manager).registry.holds o = false ∧
          ∀ t reply, During app s t → t.stack = s.stack → t.control = .answered reply →
            reply = .flag true := by
  refine ⟨fun w scope o => (World.addCollected_eq hcollects w scope o).symm, ?_, ?_⟩
  · intro command moves
    have hsound : World.Sound app ({} : World ν) := (Reachable.start command).sound
    have hstart : (State.start ({} : World ν) command).Agrees .whole id (.start {} command) :=
      ⟨.empty .whole, .issue .., .nil⟩
    have hagrees := hstart.follow_exchanging hsound hsound moves
    refine ⟨(State.result?_eq_of_mirrors hagrees.control hagrees.stack).symm,
      (State.handed?_eq_of_mirrors hagrees.control hagrees.stack).symm, ?_,
      (hagrees.world.effects_eq app.names).symm⟩
    intro m
    exact ⟨(hagrees.world.registry m trivial).eq_of_id.symm, (hagrees.world.cached m trivial).symm⟩
  · intro o ho
    refine ⟨fun s scope hcontrol => State.step_of_unannounced hcontrol ho, ?_⟩
    intro s scope hs hcontrol hholds
    obtain ⟨hregistry, hgone⟩ := hs.step_of_removeComponent hcontrol hholds
    refine ⟨hregistry, hgone, ?_⟩
    intro t reply ht hstack hreply
    by_contra hfalse
    -- Any other reply would have left the registry as it was.
    rw [(hs.reply_of_membership hcontrol rfl ht hstack hreply).2 hfalse, hholds] at hgone
    cases hgone

/-- A worker that fails whenever it is called, a foreman that on the first failure has the worker
removed and hired again, twice, and a guest of an unannounced type. -/
def hiring : Script.Cast where
  hierarchy := ⟨fun _ => none⟩
  names := ⟨fun _ => "Event", fun _ => .labelled "Event"⟩
  managers := [{}]
  roles := [
    some ⟨"Worker", true, [⟨⟨.invoke, .custom 0, "work"⟩, false,
      [⟨.fail ⟨"broken", []⟩, 0, none, none⟩]⟩]⟩,
    some ⟨"Foreman", true, [⟨⟨.invoke, .observerFailed, "hire"⟩, false,
      [⟨.act ⟨.remove 0, 0, .direct⟩ false, 0, some 1, none⟩,
        ⟨.act ⟨.addComponent 0, 0, .direct⟩ false, 0, some 1, none⟩,
        ⟨.act ⟨.add 0, 0, .direct⟩ false, 0, some 1, none⟩]⟩]⟩,
    some ⟨"Guest", false, [⟨⟨.invoke, .custom 0, "watch"⟩, false, []⟩]⟩]

/-- The announced types of the cast. -/
def hiringTypes : List ObserverType :=
  [⟨"Worker", true, [⟨.invoke, .custom 0, "work"⟩]⟩,
    ⟨"Foreman", true, [⟨.invoke, .observerFailed, "hire"⟩]⟩]

/-- The foreman is registered, then the guest, and an event is fired. Every operation is exchanged
for its other form when it is about to be carried out. -/
def hiringMoves : List (Bool × Option Command) :=
  let steps := List.replicate 60 (true, none)
  steps ++ (false, some { operation := .addComponent 1 }) :: steps
    ++ (false, some { operation := .add 2 }) :: steps
    ++ (false, some { operation := .fire (.plain 0 "") }) :: steps

/-- The state in which the guest, registered as an observer, is about to be removed as a
component. -/
def farewell : State Script.Note :=
  (State.start (World.after hiring.application 20 {} [{ operation := .add 2 }])
    { operation := .removeComponent 2 }).step hiring.application

/-- The exchange does not show: the worker fails, is reported once and has been hired anew in the
end, whichever way it is asked for. The guest is turned away as a component, and as a component it
is removed. -/
theorem hiring_ends_alike_either_way :
    hiring.application.Collects hiringTypes ∧
      (let t' := (State.start {} { operation := .add 0 }).followExchanging hiring.application
        hiringMoves
      t'.result? = some (.ok (.delivered (.plain 0 ""))) ∧
        (t'.world.manager 0).registry.objects = [1, 2, 0] ∧
        (t'.world.manager 0).cache.keys = [.observerAdded] ∧
        (t'.world.effects hiring.application.names).length = 11) ∧
      hiring.application.announces 2 = false ∧
      ((State.start {} { operation := .addComponent 2 }).step hiring.application).step
        hiring.application = ⟨World.record {} ⟨0, 0⟩ .notAnnounced, .answered (.flag false), []⟩ ∧
      (farewell.world.manager 0).registry.holds 2 = true ∧
      ((farewell.step hiring.application).world.manager 0).registry.holds 2 = false ∧
      ∀ reply, (farewell.steps hiring.application 4).control = .answered reply →
        reply = .flag true := by
  have hcollects : hiring.application.Collects hiringTypes := by
    intro o type htype
    match o with
    | 0 | 1 | 2 =>
      obtain rfl := Option.some_inj.1 htype
      decide
    | _ + 3 => cases htype
  have hguest : hiring.application.announces 2 = false := by decide
  obtain ⟨-, hruns, hunannounced⟩ := hiring.application.either_way_the_same hcollects
  obtain ⟨hresult, -, hmanagers, heffects⟩ := hruns { operation := .add 0 } hiringMoves
  obtain ⟨haway, hremoved⟩ := hunannounced 2 hguest
  have hs : Reachable hiring.application farewell :=
    (Reachable.after _ (fun _ => .start _) (by decide +kernel)).step
  have hholds : (farewell.world.manager 0).registry.holds 2 = true := by decide +kernel
  obtain ⟨-, hgone, hreply⟩ := hremoved farewell ⟨0, 0⟩ hs (by rfl) hholds
  have hends : During hiring.application farewell (farewell.steps hiring.application 4) :=
    .of_steps (by decide +kernel)
  refine ⟨hcollects, ⟨?_, ?_, ?_, ?_⟩, hguest, haway _ ⟨0, 0⟩ rfl, hholds, hgone,
    fun reply => hreply _ reply hends (by rfl)⟩
  · rw [hresult]
    decide +kernel
  · rw [(hmanagers 0).1]
    decide +kernel
  · rw [(hmanagers 0).2]
    decide +kernel
  · rw [heffects]
    decide +kernel

end EventDispatch
