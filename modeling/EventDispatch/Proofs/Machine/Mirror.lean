import EventDispatch.Proofs.Machine.Comparison
import EventDispatch.Proofs.Machine.Locality

/-!
# States that differ in numbers

Two states mirror each other in a manager if what belongs to it is the same in both, up to the
numbers that handlers and dispatches have been given: they agree in a view that looks at this
manager alone (`World.mirrors_iff`). A step inside the manager acts where this view looks, and a
local handler passes over the notes that it does not see, so the states mirror each other after a
step inside the manager as well (`State.Mirrors.step`), and after a run (`State.Mirrors.steps`).
-/

set_option autoImplicit false

namespace EventDispatch

variable {ν : Type} {app : Application ν} {f : Nat → Nat}

/-! ## Worlds -/

/-- What belongs to a manager is the same in two worlds, up to numbers: `f` takes those of handlers
in the second world to those in the first, and the next free one to the next free one. -/
structure World.Mirrors (f : Nat → Nat) (m : ManagerId) (w w' : World ν) : Prop where
  registry : Registry.Mirrors f w'.nextHandler (w.manager m).registry (w'.manager m).registry
  cached : (w.manager m).cache.keys = (w'.manager m).cache.keys
  guard : ∀ thread, w.guard? ⟨thread, m⟩ = (w'.guard? ⟨thread, m⟩).map (List.map f)
  facts : (w.factsOf m).map Fact.bare = (w'.factsOf m).map Fact.bare
  fresh : ∀ k, f (w'.nextHandler + k) = w.nextHandler + k
  injective : Function.Injective f

/-- The view that looks at one manager and sees the facts about it. -/
def View.only (m : ManagerId) : View ν (Fact ν) where
  manager m' := m' = m
  seen? entry := (entry.factOf? m).map Fact.bare
  threads := False
  seen?_eq {scope} {fact} {fact'} hfact := by
    simp only [Entry.factOf?]
    split
    · rw [Option.map_some, Option.map_some, hfact]
    · rfl

namespace World

theorem read_only (w : World ν) (m : ManagerId) :
    w.read (View.only m).seen? = (w.factsOf m).map Fact.bare := by
  rw [factsOf, read, read, List.map_filterMap]
  rfl

theorem mirrors_iff {w w' : World ν} {m : ManagerId} :
    w.Mirrors f m w' ↔ w.Agrees (.only m) f w' := by
  constructor
  · intro h
    refine ⟨?_, ?_, ?_, ?_, False.elim, h.fresh, h.injective⟩
    · rintro _ rfl
      exact h.registry
    · rintro _ rfl
      exact h.cached
    · rintro ⟨thread, _⟩ rfl
      exact h.guard thread
    · rw [read_only, read_only]
      exact h.facts
  · intro h
    refine ⟨h.registry m rfl, h.cached m rfl, fun thread => h.guard ⟨thread, m⟩ rfl, ?_, h.fresh,
      h.injective⟩
    rw [← read_only, ← read_only]
    exact h.seen

namespace Mirrors

variable {w w' : World ν} {m : ManagerId} (h : w.Mirrors f m w')

include h

/-- What is read in the facts is the same, if it does not depend on numbers. -/
theorem filterMap_factsOf {α : Type} {g : Fact ν → Option α} (hg : ∀ fact, g fact.bare = g fact) :
    (w.factsOf m).filterMap g = (w'.factsOf m).filterMap g := by
  have hbare (facts : List (Fact ν)) : facts.filterMap g = (facts.map Fact.bare).filterMap g := by
    rw [List.filterMap_map]
    exact List.filterMap_congr fun fact _ => (hg fact).symm
  rw [hbare, h.facts, ← hbare]

theorem length_registry : (w.manager m).registry.length = (w'.manager m).registry.length :=
  (mirrors_iff.1 h).length_registry rfl

theorem size_cache : (w.manager m).cache.size = (w'.manager m).cache.size :=
  (mirrors_iff.1 h).size_cache rfl

end Mirrors

end World

/-! ## States -/

/-- Two states are the same in what belongs to a manager, up to numbers. -/
structure State.Mirrors (f : Nat → Nat) (m : ManagerId) (s s' : State ν) : Prop where
  world : s.world.Mirrors f m s'.world
  control : s.control.Mirrors f s'.control
  stack : List.Forall₂ (Frame.Mirrors f) s.stack s'.stack

/-- What is under way inside a manager is where the view of the manager looks. -/
theorem State.Inside.covers {m : ManagerId} {s : State ν} (h : s.Inside m) :
    (View.only m).Covers s := by
  obtain ⟨w, control, K⟩ := s
  obtain ⟨hcontrol, hstack⟩ := h
  have htop (hnone : control.scope? = none) :
      ∀ scope, State.scope? ⟨w, control, K⟩ = some scope → scope.manager = m := by
    intro scope hscope
    cases K with
    | nil => simp [State.scope?, hnone] at hscope
    | cons frame K =>
      have hframe := hstack frame List.mem_cons_self
      cases frame with
      | body =>
        obtain rfl : _ = scope := by simpa [State.scope?, hnone, Frame.scope?] using hscope
        exact hframe.1
      | attempt | reporting | firing =>
        obtain rfl : _ = scope := by simpa [State.scope?, hnone, Frame.scope?] using hscope
        exact hframe
      | contained | joined => simp [State.scope?, hnone, Frame.scope?] at hscope
  constructor
  · cases control with
    | run | issue =>
      rintro _ ⟨⟩
      exact hcontrol.1
    | perform | dispatch | deliver | fail =>
      rintro _ ⟨⟩
      exact hcontrol
    | _ => exact htop rfl
  · rintro thread command rfl hspawned
    exact absurd hspawned hcontrol.2

namespace State.Mirrors

variable {m : ManagerId} {s s' : State ν}

theorem agrees (h : s.Mirrors f m s') : s.Agrees (.only m) f s' :=
  ⟨World.mirrors_iff.1 h.world, h.control, h.stack⟩

theorem result?_eq (h : s.Mirrors f m s') : s.result? = s'.result? :=
  result?_eq_of_mirrors h.control h.stack

/-- A local program goes on alike in both states when it has read the notes. -/
theorem notes_eq (h : s.Mirrors f m s') (hinside : s.Inside m) {scope : Scope}
    {next : Array (ManagerId × ν) → Program ν} (hrun : s.control = .run scope (.recall next)) :
    next s.world.notes = next s'.world.notes := by
  have hcontrol := hinside.control
  rw [hrun] at hcontrol
  obtain ⟨rfl, hprogram⟩ := hcontrol
  cases hprogram with
  | «recall» hown _ =>
    -- The notes of other managers may differ, but the program passes over them.
    have hread : (s.world.factsOf scope.manager).filterMap Fact.note?
        = (s'.world.factsOf scope.manager).filterMap Fact.note? :=
      h.world.filterMap_factsOf fun fact => by cases fact <;> rfl
    rw [hown, World.notes_filter, hread, ← World.notes_filter, ← hown]

/-- A step inside the manager does the same in both states, up to numbers. -/
theorem step (h : s.Mirrors f m s') (hs : s.world.Sound app) (hs' : s'.world.Sound app)
    (hinside : s.Inside m) : (s.step app).Mirrors f m (s'.step app) := by
  have hstep := h.agrees.step hs hs' hinside.covers fun _ _ => h.notes_eq hinside
  exact ⟨World.mirrors_iff.2 hstep.world, hstep.control, hstep.stack⟩

/-- A run inside the manager does the same from both states, up to numbers. -/
theorem steps {n : Nat} (h : s.Mirrors f m s') (hs : Reachable app s) (hs' : Reachable app s')
    (hinside : s.Inside m) (hlocal : (s.steps app n).world.Local app) :
    (s.steps app n).Mirrors f m (s'.steps app n) := by
  induction n generalizing s s' with
  | zero => exact h
  | succ n ih =>
    have hstep : (s.step app).world.Local app := hlocal.mono ((s.step app).history_grows n)
    exact ih (h.step hs.sound hs'.sound hinside) hs.step hs'.step
      ((s.move_step app).inside hstep hinside) hlocal

end State.Mirrors

end EventDispatch
