import EventDispatch.Proofs.Registry.Coherence
import EventDispatch.Proofs.Registry.Renumbering

/-!
# Runs inside one manager

A handler is local to a manager if it asks that manager only, on its own thread, and decides by
nothing but the notes that were left in deliveries of that manager. As long as the handlers that are
called are local to the managers that call them, a command that is given to a manager is carried out
inside that manager (`Move.inside`), and nothing that belongs to another manager changes meanwhile
(`State.Inside.spares`).
-/

set_option autoImplicit false

namespace EventDispatch

variable {ν : Type} {app : Application ν}

/-! ## Local handlers -/

/-- Whether a program asks for operations of the manager `m` only, none of them on another thread,
and decides by nothing but their replies and the notes left in deliveries of that manager. -/
inductive Program.Local (m : ManagerId) : Program ν → Prop
  | finish {result : Except ErrorChain Unit} : Local m (.finish result)
  | panic {payload : Payload} : Local m (.panic payload)
  | perform {command : Command} {next : Reply → Program ν} (hmanager : command.manager = m)
      (hmode : command.mode ≠ .spawned) (hnext : ∀ reply, (next reply).Local m) :
      Local m (.perform command next)
  | note {entry : ν} {next : Program ν} (hnext : next.Local m) : Local m (.note entry next)
  | recall {next : Array (ManagerId × ν) → Program ν}
      (hown : ∀ notes, next notes = next (notes.filter (·.1 = m)))
      (hnext : ∀ notes, (next notes).Local m) : Local m (.recall next)

/-- Whether the handlers that have been called so far are local to the managers that called them. -/
def World.Local (app : Application ν) (w : World ν) : Prop :=
  ∀ entry ∈ w.history, ∀ d b part, entry.fact = .called d b part →
    (app.program entry.scope.manager b.observer b.binding part).Local entry.scope.manager

theorem World.Local.mono {w w' : World ν} (h : w'.Local app)
    (hgrows : w.history <+: w'.history) : w.Local app :=
  fun entry hentry => h entry (hgrows.subset hentry)

/-! ## Inside one manager -/

/-- Whether what a control is about belongs to a manager. -/
def Control.Inside (m : ManagerId) : Control ν → Prop
  | .run scope program => scope.manager = m ∧ program.Local m
  | .issue _ command => command.manager = m ∧ command.mode ≠ .spawned
  | .perform scope _ => scope.manager = m
  | .dispatch scope _ _ => scope.manager = m
  | .deliver scope _ _ => scope.manager = m
  | .fail scope _ _ _ _ => scope.manager = m
  | _ => True

/-- Whether what a frame waits for belongs to a manager. -/
def Frame.Inside (m : ManagerId) : Frame ν → Prop
  | .body scope next => scope.manager = m ∧ ∀ reply, (next reply).Local m
  | .attempt scope _ _ _ => scope.manager = m
  | .reporting scope _ _ _ _ => scope.manager = m
  | .firing scope _ _ => scope.manager = m
  | .contained | .joined => True

/-- Everything that is under way belongs to a manager. -/
structure State.Inside (m : ManagerId) (s : State ν) : Prop where
  control : s.control.Inside m
  stack : ∀ frame ∈ s.stack, frame.Inside m

theorem State.inside_start {m : ManagerId} (w : World ν) {command : Command}
    (hmanager : command.manager = m) (hmode : command.mode ≠ .spawned) :
    (State.start w command).Inside m :=
  ⟨⟨hmanager, hmode⟩, List.forall_mem_nil _⟩

section Inside

variable {m : ManagerId} {s t : State ν}

/-- A step of local handlers stays inside the manager. -/
theorem Move.inside (h : Move app s t) (hlocal : t.world.Local app) (hs : s.Inside m) :
    t.Inside m := by
  obtain ⟨hcontrol, hstack⟩ := hs
  cases h with
  | finish | panic => exact ⟨trivial, hstack⟩
  | call =>
    obtain ⟨hscope, hprogram⟩ := hcontrol
    cases hprogram with
    | perform hmanager hmode hnext =>
      exact ⟨⟨hmanager, hmode⟩, List.forall_mem_cons.2 ⟨⟨hscope, hnext⟩, hstack⟩⟩
  | note =>
    obtain ⟨hscope, hprogram⟩ := hcontrol
    cases hprogram with
    | note hnext => exact ⟨⟨hscope, hnext⟩, hstack⟩
  | «recall» =>
    obtain ⟨hscope, hprogram⟩ := hcontrol
    cases hprogram with
    | «recall» hown hnext => exact ⟨⟨hscope, hnext _⟩, hstack⟩
  | direct => exact ⟨hcontrol.1, hstack⟩
  | caught => exact ⟨hcontrol.1, List.forall_mem_cons.2 ⟨trivial, hstack⟩⟩
  | spawned _ _ _ _ hmode => exact absurd hmode hcontrol.2
  | query | kept | stall | stuck => exact ⟨trivial, hstack⟩
  | joined | parted | fire => exact ⟨hcontrol, List.forall_mem_cons.2 ⟨hcontrol, hstack⟩⟩
  | dispatch | mismatch | silent | undeliverable | unreported => exact ⟨hcontrol, hstack⟩
  | complete => exact ⟨trivial, hstack⟩
  | attempt w scope delivery b rest part =>
    obtain rfl : scope.manager = m := hcontrol
    have hprogram := hlocal ⟨scope, .called delivery b part⟩ (by simp) delivery b part rfl
    exact ⟨⟨rfl, hprogram⟩, List.forall_mem_cons.2 ⟨rfl, hstack⟩⟩
  | report => exact ⟨hcontrol, List.forall_mem_cons.2 ⟨hcontrol, hstack⟩⟩
  | succeeded | failed | reported | panicked =>
    obtain ⟨hframe, hbelow⟩ := List.forall_mem_cons.1 hstack
    exact ⟨hframe, hbelow⟩
  | resume =>
    obtain ⟨⟨hscope, hnext⟩, hbelow⟩ := List.forall_mem_cons.1 hstack
    exact ⟨⟨hscope, hnext _⟩, hbelow⟩
  | close | uncaught | wait | escape | abandon | abandonReport | contain | unwindBody
      | unwindThread =>
    exact ⟨trivial, (List.forall_mem_cons.1 hstack).2⟩
  | rest => exact ⟨hcontrol, hstack⟩

end Inside

/-! ## What is entered about a manager -/

/-- The fact about a manager that an entry states. -/
def Entry.factOf? (m : ManagerId) (entry : Entry ν) : Option (Fact ν) :=
  if entry.scope.manager = m then some entry.fact else none

/-- The note that a fact is. -/
def Fact.note? : Fact ν → Option ν
  | .noted note => some note
  | _ => none

namespace World

/-- The facts about a manager, oldest first. -/
def factsOf (m : ManagerId) (w : World ν) : List (Fact ν) := w.read (Entry.factOf? m)

/-- The notes that were left in deliveries of a manager are among the facts about it. -/
theorem notes_filter (w : World ν) (m : ManagerId) :
    w.notes.filter (·.1 = m) = ((w.factsOf m).filterMap Fact.note?).toArray.map (Prod.mk m) := by
  apply Array.toList_inj.1
  rw [notes, Array.toList_filter, Array.toList_filterMap, Array.toList_map, factsOf, read, history,
    List.filterMap_filterMap, List.filter_filterMap, List.map_filterMap]
  apply List.filterMap_congr
  rintro ⟨scope, fact⟩ -
  by_cases hscope : scope.manager = m <;> cases fact <;>
    simp [Entry.factOf?, Fact.note?, hscope]

end World

/-! ## Elsewhere -/

/-- Nothing that belongs to a manager has changed, though handler numbers may have been used up. -/
structure World.Spares (m : ManagerId) (w w' : World ν) : Prop where
  manager : w'.manager m = w.manager m
  facts : w'.factsOf m = w.factsOf m
  numbers : w.nextHandler ≤ w'.nextHandler

namespace World.Spares

variable {w w' w'' : World ν} {scope : Scope} {m : ManagerId}

theorem refl : w.Spares m w := ⟨rfl, rfl, Nat.le_refl _⟩

theorem trans (h : w.Spares m w') (h' : w'.Spares m w'') : w.Spares m w'' :=
  ⟨h'.manager.trans h.manager, h'.facts.trans h.facts, Nat.le_trans h.numbers h'.numbers⟩

section OtherScope

variable (hne : scope.manager ≠ m)

include hne

/-- Facts of another manager do not count. -/
theorem of_history (facts : List (Fact ν)) (hmanager : w'.manager m = w.manager m)
    (hhistory : w'.history = w.history ++ facts.map (Entry.mk scope))
    (hnumbers : w.nextHandler ≤ w'.nextHandler) : w.Spares m w' := by
  have hnone : (facts.map (Entry.mk scope)).filterMap (Entry.factOf? m) = [] := by
    rw [List.filterMap_map, List.filterMap_eq_nil_iff]
    exact fun _ _ => if_neg hne
  refine ⟨hmanager, ?_, hnumbers⟩
  rw [factsOf, read_append _ hhistory, hnone, List.append_nil, factsOf]

theorem record (fact : Fact ν) : w.Spares m (w.record scope fact) :=
  of_history hne [fact] (manager_record ..) (history_record ..) (Nat.le_refl _)

theorem chronicle (k : Nat) (fs : List (Fact ν)) : w.Spares m (w.chronicle k scope fs) :=
  of_history hne fs (manager_chronicle ..) (history_chronicle ..) (Nat.le_add_right _ _)

theorem join (o : ObjectId) (type : ObserverType) (fs : List (Fact ν)) :
    w.Spares m (w.join scope o type fs) := by
  refine of_history hne fs ?_ (history_join ..) (Nat.le_add_right _ _)
  rw [manager_join, if_neg (Ne.symm hne)]

theorem part (o : ObjectId) (fs : List (Fact ν)) : w.Spares m (w.part scope o fs) := by
  refine of_history hne fs ?_ (history_part ..) (Nat.le_refl _)
  rw [manager_part, if_neg (Ne.symm hne)]

theorem launch (app : Application ν) (origin : Origin) (event : Event) :
    w.Spares m (w.launch app scope origin event) := by
  obtain ⟨fs, -, hhistory⟩ := w.history_launch app scope origin event
  rw [List.append_assoc] at hhistory
  refine of_history hne (fs ++ [.dispatched origin ⟨w.nextDispatch, event⟩]) ?_ ?_ ?_
  · exact manager_launch_of_ne app w scope origin event (Ne.symm hne)
  · rw [hhistory, List.map_append, List.map_singleton]
  · exact Nat.le_of_eq (nextHandler_launch ..).symm

end OtherScope

theorem enter : w.Spares m (w.enter scope) where
  manager := manager_enter ..
  facts := read_enter ..
  numbers := Nat.le_of_eq (nextHandler_enter ..).symm

theorem leave (b : Bool) : w.Spares m (w.leave scope b) where
  manager := manager_leave ..
  facts := read_leave ..
  numbers := Nat.le_of_eq (nextHandler_leave ..).symm

theorem addFailure (i : Nat) : w.Spares m (w.addFailure scope i) := ⟨rfl, rfl, Nat.le_refl _⟩

end World.Spares

section Elsewhere

variable {m m' : ManagerId} {s t : State ν} (hne : m' ≠ m)

include hne

/-- A step inside another manager changes nothing that belongs to a manager. -/
theorem Move.spares (h : Move app s t) (hs : s.Inside m') : s.world.Spares m t.world := by
  obtain ⟨hcontrol, hstack⟩ := hs
  -- The scope of a step is that of the control or, if an outcome is taken there, of a frame.
  have hother {scope : Scope} (hscope : scope.manager = m') : scope.manager ≠ m := hscope ▸ hne
  cases h with
  | note => exact .record (hother hcontrol.1) _
  | kept | stall => exact .chronicle (hother hcontrol) _ _
  | joined => exact (World.Spares.join (hother hcontrol) _ _ _).trans .enter
  | parted => exact (World.Spares.part (hother hcontrol) _ _).trans .enter
  | fire => exact .enter
  | dispatch => exact .launch (hother hcontrol) _ _ _
  | complete | mismatch | silent => exact .record (hother hcontrol) _
  | attempt =>
    exact (World.Spares.record (hother hcontrol) _).trans (.record (hother hcontrol) _)
  | undeliverable | unreported =>
    exact ((World.Spares.record (hother hcontrol) _).trans (.addFailure _)).trans
      (.record (hother hcontrol) _)
  | report => exact (World.Spares.record (hother hcontrol) _).trans (.addFailure _)
  | succeeded | reported =>
    exact .record (hother (List.forall_mem_cons.1 hstack).1) _
  | close | abandon => exact .leave _
  | spawned => exact ⟨rfl, rfl, Nat.le_refl _⟩
  | _ => exact .refl

/-- A run inside another manager changes nothing that belongs to a manager. -/
theorem State.Inside.spares {n : Nat} (hs : s.Inside m')
    (hlocal : (s.steps app n).world.Local app) : s.world.Spares m (s.steps app n).world := by
  induction n generalizing s with
  | zero => exact .refl
  | succ n ih =>
    have hmove := s.move_step app
    have hstep : (s.step app).world.Local app := hlocal.mono ((s.step app).history_grows n)
    exact (hmove.spares hne hs).trans (ih (hmove.inside hstep hs) hlocal)

end Elsewhere

end EventDispatch
