import EventDispatch.Machine.Step
import EventDispatch.Script.Handler

/-!
# Playing a script

The steps of a script are played one after the other in one world, each to its end. A step's report
holds its outcome, what was entered into the journal meanwhile, and the state of every manager after
it. The notes and the log lines of a report stand in the order of the journal.
-/

set_option autoImplicit false

namespace EventDispatch.Script

/-- One item of a report's log. -/
inductive Item where
  | note (note : Note)
  | line (line : Line)
  deriving DecidableEq, Repr, Inhabited

/-- The item of a journal entry: a note, or a log line that the threshold shows. -/
def Item.ofEntry? (names : Naming) (threshold : Option Level) (entry : Entry Note) : Option Item :=
  match entry.fact with
  | .noted n => some (.note n)
  | fact => ((fact.line? names).filter (·.shownAt threshold)).map .line

/-- The report of one step: its outcome, the log, and for each manager how many objects are
registered and for how many event types a plan is at hand. -/
structure Report where
  outcome : Outcome
  log : Array Item
  managers : List (Nat × Nat)
  deriving Inhabited

namespace Cast

variable (c : Cast)

/-- How many steps a command may take. No script that ends comes near to it. -/
def patience : Nat := 1000000000

/-- How many objects each manager holds and how many plans it has at hand. -/
def census (w : World Note) : List (Nat × Nat) :=
  (List.range c.managers.length).map fun m =>
    let state := w.manager m
    (state.registry.length, state.cache.size)

/-- Carries out an action at top level. A panic that comes out of it is its reply. There is no
outcome if the action does not end. -/
def perform (w : World Note) (a : Action) : Option Outcome × World Note :=
  match a.command? w.notes with
  | none => (some .nothingCaptured, w)
  | some command =>
    let last := (State.start w command).runToEnd c.application patience
    match last.result? with
    | some (.ok reply) => (some (.replied reply), last.world)
    | some (.error payload) => (some (.replied (.panicked payload)), last.world)
    | none => (none, last.world)

/-- Plays the steps of a script from a world on, up to the first that does not end. -/
def play (threshold : Option Level) : World Note → List Action → List Report
  | _, [] => []
  | w, a :: rest =>
    match c.perform w a with
    | (none, _) => []
    | (some outcome, w') =>
      let log := (w'.journal.extract w.journal.size w'.journal.size).filterMap
        (Item.ofEntry? c.names threshold)
      { outcome, log, managers := c.census w' } :: play threshold w' rest

end Cast

end EventDispatch.Script
