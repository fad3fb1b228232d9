import EventDispatch.Proofs.Machine.Comparison
import EventDispatch.Proofs.Machine.Independence

/-!
# Effects of a run

The effects of a run are what handlers note and are called with, the reports of failures, and the
warnings and errors that are logged. Most operations on the registry note facts on the way to their
answers that are not effects; a view that looks at everything else sees all effects
(`World.Agrees.effects_eq`). States that agree in this view go on alike, whatever they are told to
do (`State.Agrees.follow`).
-/

set_option autoImplicit false

namespace EventDispatch

variable {ν : Type} {app : Application ν} {f : Nat → Nat}

/-! ## Effects -/

/-- An effect: a note of a handler, a call of the handler of a place with a part of an event, the
report of a failure, or a line that is logged as a warning or as an error. -/
inductive Effect (ν : Type) where
  | noted (note : ν)
  | called (place : ObjectId × Nat) (part : Event)
  | reported (event : Event)
  | logged (line : Line)
  deriving DecidableEq

/-- The effect that a fact is, if it is one. -/
def Fact.effect? (names : Naming) (fact : Fact ν) : Option (Effect ν) :=
  match fact with
  | .noted note => some (.noted note)
  | .called _ b part => some (.called b.place part)
  | .dispatched (.report _) d => some (.reported d.event)
  | _ => ((fact.line? names).filter (·.level ≠ .debug)).map .logged

/-- The effects of a run so far, in the order in which they came, each with its scope. -/
def World.effects (names : Naming) (w : World ν) : List (Scope × Effect ν) :=
  w.read fun entry => (entry.fact.effect? names).map (Prod.mk entry.scope)

/-- Whether a fact is noted on the way to the answer of an operation on the registry and says
nothing of a change. -/
def Fact.isPreliminary : Fact ν → Bool
  | .notAnnounced | .described _ | .built .. | .ignored _ | .alreadyRegistered _ => true
  | _ => false

/-- A preliminary fact is no effect. -/
theorem Fact.effect?_of_isPreliminary {fact : Fact ν} (h : fact.isPreliminary = true)
    (names : Naming) : fact.effect? names = none := by
  cases fact with
  | notAnnounced | described | built | ignored | alreadyRegistered =>
    simp [effect?, line?, Option.filter]
  | _ => cases h

theorem Fact.isPreliminary_bare (fact : Fact ν) : fact.bare.isPreliminary = fact.isPreliminary := by
  cases fact <;> rfl

/-- Numbers do not show in effects. -/
theorem Fact.effect?_bare (names : Naming) (fact : Fact ν) :
    fact.bare.effect? names = fact.effect? names := by
  cases fact with
  | dispatched origin => cases origin <;> rfl
  | _ => rfl

/-! ## The view of everything but preliminary facts -/

/-- The view that looks at all managers and threads and sees everything but preliminary facts. -/
def View.whole : View ν (Entry ν) where
  manager _ := True
  seen? entry :=
    if entry.fact.isPreliminary then none else some ⟨entry.scope, entry.fact.bare⟩
  threads := True
  seen?_eq {scope} {fact} {fact'} hfact := by
    have hpreliminary := congrArg Fact.isPreliminary hfact
    rw [Fact.isPreliminary_bare, Fact.isPreliminary_bare] at hpreliminary
    simp only [hpreliminary, hfact]

namespace World

variable {w w' : World ν}

/-- What is read in the journal is the same, if it depends neither on preliminary facts nor on
numbers. -/
theorem Agrees.read_eq (h : w.Agrees .whole f w') {α : Type} {g : Entry ν → Option α}
    (hpreliminary : ∀ entry, entry.fact.isPreliminary = true → g entry = none)
    (hbare : ∀ entry, g ⟨entry.scope, entry.fact.bare⟩ = g entry) : w.read g = w'.read g := by
  have hseen (v : World ν) : v.read g = (v.read View.whole.seen?).filterMap g := by
    rw [read, read, List.filterMap_filterMap]
    apply List.filterMap_congr
    intro entry _
    by_cases hentry : entry.fact.isPreliminary = true
    · simp [View.whole, hentry, hpreliminary entry hentry]
    · simp [View.whole, hentry, hbare entry]
  rw [hseen, h.seen, ← hseen]

theorem Agrees.effects_eq (h : w.Agrees .whole f w') (names : Naming) :
    w.effects names = w'.effects names := by
  apply h.read_eq
  · intro entry hentry
    rw [Fact.effect?_of_isPreliminary hentry, Option.map_none]
  · intro entry
    rw [Fact.effect?_bare]

theorem Agrees.notes_eq (h : w.Agrees .whole f w') : w.notes = w'.notes := by
  have hread (v : World ν) : v.notes.toList
      = v.read fun entry => entry.fact.note?.map (Prod.mk entry.scope.manager) := by
    rw [notes, Array.toList_filterMap, read, history]
    apply List.filterMap_congr
    rintro ⟨scope, fact⟩ -
    cases fact <;> rfl
  apply Array.toList_inj.1
  rw [hread, hread]
  apply h.read_eq
  · intro entry hentry
    cases hfact : entry.fact with
    | noted =>
      rw [hfact] at hentry
      cases hentry
    | _ => rfl
  · intro entry
    cases entry.fact <;> rfl

end World

/-! ## Going on -/

namespace State

/-- The state after one step or, once the command has ended, at the start of another. -/
def proceed (app : Application ν) (s : State ν) : Option Command → State ν
  | none => s.step app
  | some command => if s.result?.isSome then .start s.world command else s

/-- The state after several of these, one after the other. -/
def follow (app : Application ν) (s : State ν) (moves : List (Option Command)) : State ν :=
  moves.foldl (proceed app) s

theorem sound_step {s : State ν} (hs : s.world.Sound app) : (s.step app).world.Sound app :=
  (s.move_step app).tended.sound hs

theorem sound_proceed {s : State ν} (hs : s.world.Sound app) (move : Option Command) :
    (s.proceed app move).world.Sound app := by
  cases move with
  | none => exact sound_step hs
  | some command =>
    unfold proceed
    dsimp only
    split <;> exact hs

namespace Agrees

variable {s s' : State ν}

/-- States that agree go on alike. -/
theorem proceed (h : s.Agrees .whole f s') (hs : s.world.Sound app) (hs' : s'.world.Sound app)
    (move : Option Command) : (s.proceed app move).Agrees .whole f (s'.proceed app move) := by
  cases move with
  | none =>
    refine h.step hs hs' ⟨fun _ _ => trivial, fun _ _ _ _ => trivial⟩ ?_
    intro scope next _
    rw [h.world.notes_eq]
  | some command =>
    unfold State.proceed
    dsimp only
    rw [result?_eq_of_mirrors h.control h.stack]
    split
    · exact ⟨h.world, .issue .., .nil⟩
    · exact h

theorem follow (h : s.Agrees .whole f s') (hs : s.world.Sound app) (hs' : s'.world.Sound app)
    (moves : List (Option Command)) :
    (s.follow app moves).Agrees .whole f (s'.follow app moves) := by
  induction moves generalizing s s' with
  | nil => exact h
  | cons move moves ih =>
    exact ih (h.proceed hs hs' move) (sound_proceed hs move) (sound_proceed hs' move)

end Agrees

end State

end EventDispatch
