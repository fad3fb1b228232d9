import EventDispatch.Proofs.Delivery.Reference
import EventDispatch.Proofs.Failure.Guard
import EventDispatch.Proofs.Machine.Mirror

/-!
# Managers that do not interfere

Several managers share objects, the handler numbers and the thread. If every handler that is called
is local to the manager that calls it, none of this shows: taking the commands that are given to
other managers out of a session leaves what a manager replies and what it shows as it was
(`Session.isolated`). The session that is left is one with other numbers, and after each command the
numbers to come are matched anew (`World.Mirrors.rematch`).
-/

set_option autoImplicit false

namespace EventDispatch

variable {ν : Type} {app : Application ν} {m : ManagerId}

/-! ## What a manager shows -/

/-- The call that a fact is: the place of the handler and the part of the event that it is given. -/
def Fact.call? : Fact ν → Option ((ObjectId × Nat) × Event)
  | .called _ b part => some (b.place, part)
  | _ => none

/-- The report of a failure that a fact is. -/
def Fact.report? : Fact ν → Option Event
  | .dispatched (.report _) d => some d.event
  | _ => none

/-- What can be seen of a manager: the calls of handlers so far, the reports of failures and the log
lines, each in the order in which they came, and how many objects are registered and how many plans
are at hand. -/
structure Showing where
  calls : List ((ObjectId × Nat) × Event)
  reports : List Event
  lines : List Line
  observers : Nat
  cachedTypes : Nat
  deriving DecidableEq

/-- What a world shows of a manager. -/
def World.showing (app : Application ν) (m : ManagerId) (w : World ν) : Showing where
  calls := (w.factsOf m).filterMap Fact.call?
  reports := (w.factsOf m).filterMap Fact.report?
  lines := (w.factsOf m).filterMap (Fact.line? app.names)
  observers := (w.manager m).registry.length
  cachedTypes := (w.manager m).cache.size

namespace State

/-- The reply that a handler is about to be given. -/
def handed? (s : State ν) : Option Reply :=
  match s.control, s.stack with
  | .answered reply, .body _ _ :: _ => some reply
  | _, _ => none

/-- The replies that handlers are given in `n` steps. -/
def replies (app : Application ν) : Nat → State ν → List Reply
  | 0, _ => []
  | n + 1, s => s.handed?.toList ++ replies app n (s.step app)

end State

/-- A command of a session, the replies that handlers have been given on the way, how the command
has ended, and what a manager shows after it. -/
structure Exchange where
  command : Command
  replies : List Reply
  result : Except Payload Reply
  shown : Showing

/-- A session on one thread that has come to a world, by its commands so far and by what the manager
`m` shows after each of them. -/
inductive Session (app : Application ν) (m : ManagerId) : List Exchange → World ν → Prop
  | nil : Session app m [] {}
  | snoc {exchanges : List Exchange} {w : World ν} {command : Command} {n : Nat}
      {r : Except Payload Reply} (hsession : Session app m exchanges w)
      (hmode : command.mode ≠ .spawned)
      (hr : ((State.start w command).steps app n).result? = some r) :
      Session app m
        (exchanges ++ [⟨command, (State.start w command).replies app n, r,
          ((State.start w command).steps app n).world.showing app m⟩])
        ((State.start w command).steps app n).world

theorem Session.reachable {exchanges : List Exchange} {w : World ν} (h : Session app m exchanges w)
    (command : Command) : Reachable app (.start w command) := by
  induction h generalizing command with
  | nil => exact .start command
  | snoc _ _ hr ih => exact ((ih _).steps _).next command hr

/-- Commands that end carry a session on. -/
theorem Session.exists_after {exchanges : List Exchange} {w : World ν} (fuel : Nat)
    (commands : List Command) (h : Session app m exchanges w)
    (hmodes : ∀ c ∈ commands, c.mode ≠ .spawned) (hends : w.finishes app fuel commands = true) :
    ∃ more, more.map (·.command) = commands ∧
      Session app m (exchanges ++ more) (w.after app fuel commands) := by
  induction commands generalizing exchanges w with
  | nil => exact ⟨[], rfl, by rwa [List.append_nil]⟩
  | cons c rest ih =>
    rw [World.finishes, Bool.and_eq_true] at hends
    obtain ⟨hc, hrest⟩ := List.forall_mem_cons.1 hmodes
    obtain ⟨r, hr⟩ := Option.isSome_iff_exists.1 hends.1
    rw [World.after]
    rw [State.runToEnd_eq_steps] at hr hends ⊢
    obtain ⟨more, hmore, hafter⟩ := ih (h.snoc hc hr) hrest hends.2
    rw [List.append_assoc] at hafter
    refine ⟨_ :: more, ?_, hafter⟩
    rw [List.map_cons, hmore]

/-- Between the commands of a session no fire is under way. -/
theorem Session.guard?_eq_none {exchanges : List Exchange} {w : World ν}
    (h : Session app m exchanges w) (sc : Scope) : w.guard? sc = none := by
  have hguarded := (h.reachable default).guarded sc
  exact Guarded.eq_none hguarded

/-! ## Mirrored sessions -/

namespace World

theorem Spares.showing_eq {w w' : World ν} (h : w.Spares m w') :
    w'.showing app m = w.showing app m := by
  rw [showing, showing, h.facts, h.manager]

namespace Mirrors

variable {f : Nat → Nat} {w w' : World ν}

theorem empty : ({} : World ν).Mirrors id m {} where
  registry := .nil
  cached := rfl
  guard _ := rfl
  facts := rfl
  fresh _ := rfl
  injective := Function.injective_id

/-- Numbers do not show. -/
theorem showing_eq (h : w.Mirrors f m w') : w.showing app m = w'.showing app m := by
  have hcalls : (w.factsOf m).filterMap Fact.call? = (w'.factsOf m).filterMap Fact.call? :=
    h.filterMap_factsOf fun fact => by cases fact <;> rfl
  have hreports : (w.factsOf m).filterMap Fact.report? = (w'.factsOf m).filterMap Fact.report? := by
    apply h.filterMap_factsOf
    intro fact
    cases fact with
    | dispatched origin => cases origin <;> rfl
    | _ => rfl
  have hlines : (w.factsOf m).filterMap (Fact.line? app.names)
      = (w'.factsOf m).filterMap (Fact.line? app.names) :=
    h.filterMap_factsOf fun fact => by cases fact <;> rfl
  have hobservers := h.length_registry
  have hcached := h.size_cache
  rw [showing, showing, hcalls, hreports, hlines, hobservers, hcached]

/-- When no fire is under way, the numbers to come can be matched anew after numbers have been used
up elsewhere. -/
theorem rematch {v : World ν} (h : w.Mirrors f m w') (hspares : w.Spares m v)
    (hrest : ∀ sc, v.guard? sc = none) (hrest' : ∀ sc, w'.guard? sc = none) :
    v.Mirrors (matched f w'.nextHandler v.nextHandler) m w' where
  registry := by
    rw [hspares.manager]
    exact h.registry.mono (Nat.le_refl _) fun i hi => (matched_of_lt hi).symm
  cached := by rw [hspares.manager, h.cached]
  guard thread := by rw [hrest, hrest', Option.map_none]
  facts := by rw [hspares.facts, h.facts]
  fresh := matched_add
  injective := matched_injective h.injective h.fresh hspares.numbers

end Mirrors

end World

/-- Handlers are given the same replies, whatever the numbers are. -/
theorem State.handed?_eq_of_mirrors {f : Nat → Nat} {s s' : State ν}
    (hcontrol : s.control.Mirrors f s'.control)
    (hstack : List.Forall₂ (Frame.Mirrors f) s.stack s'.stack) : s.handed? = s'.handed? := by
  obtain ⟨w, control, K⟩ := s
  obtain ⟨w', control', K'⟩ := s'
  dsimp only at hcontrol hstack
  cases hcontrol with
  | answered reply =>
    cases hstack with
    | nil => rfl
    | cons hframe => cases hframe <;> rfl
  | _ => rfl

namespace State.Mirrors

variable {f : Nat → Nat} {s s' : State ν}

theorem start {w w' : World ν} (h : w.Mirrors f m w') (command : Command) :
    Mirrors f m (State.start w command) (State.start w' command) :=
  ⟨h, .issue .., .nil⟩

theorem handed?_eq (h : s.Mirrors f m s') : s.handed? = s'.handed? :=
  handed?_eq_of_mirrors h.control h.stack

theorem replies_eq {n : Nat} (h : s.Mirrors f m s') (hs : Reachable app s)
    (hs' : Reachable app s') (hinside : s.Inside m)
    (hlocal : (s.steps app n).world.Local app) : s.replies app n = s'.replies app n := by
  induction n generalizing s s' with
  | zero => rfl
  | succ n ih =>
    have hstep : (s.step app).world.Local app := hlocal.mono ((s.step app).history_grows n)
    have hrest := ih (h.step hs.sound hs'.sound hinside) hs.step hs'.step
      ((s.move_step app).inside hstep hinside) hlocal
    rw [State.replies, State.replies, h.handed?_eq, hrest]

end State.Mirrors

/-- The session in which the commands to other managers are left out mirrors the whole one. -/
theorem Session.exists_mirror {exchanges : List Exchange} {w : World ν}
    (h : Session app m exchanges w) (hlocal : w.Local app) :
    ∃ w' f, Session app m (exchanges.filter (·.command.manager = m)) w' ∧ w.Mirrors f m w' := by
  induction h with
  | nil => exact ⟨{}, id, .nil, .empty⟩
  | @snoc exchanges w command n r hsession hmode hr ih =>
    obtain ⟨w', f, hsession', hmirrors⟩ :=
      ih (hlocal.mono ((State.start w command).history_grows n))
    have hs := hsession.reachable command
    rw [List.filter_append]
    by_cases hmanager : command.manager = m
    · -- A command to the manager itself is carried out in both sessions.
      have hs' := hsession'.reachable command
      have hinside := State.inside_start w hmanager hmode
      have hstart := State.Mirrors.start hmirrors command
      have hend := hstart.steps hs hs' hinside hlocal
      have hkept := hsession'.snoc hmode (hend.result?_eq ▸ hr)
      refine ⟨_, f, ?_, hend.world⟩
      rw [List.filter_cons_of_pos (by simpa using hmanager), List.filter_nil,
        hstart.replies_eq hs hs' hinside hlocal, hend.world.showing_eq]
      exact hkept
    · -- Any other command leaves the manager alone, but it may use up numbers.
      have hspares := (State.inside_start w rfl hmode).spares hmanager hlocal
      refine ⟨w', matched f w'.nextHandler _, ?_, hmirrors.rematch hspares
        (hsession.snoc hmode hr).guard?_eq_none hsession'.guard?_eq_none⟩
      rwa [List.filter_cons_of_neg (by simpa using hmanager), List.filter_nil, List.append_nil]

/-- **Managers do not interfere.** If the handlers that are called in a session are local to the
managers that call them, leaving out the commands to other managers gives a session in which every
command to the manager `m` has the same result and its handlers are given the same replies, and in
which the manager shows the same after every command. This goes on step by step: a further command
to `m` does the same in both sessions, and while another manager is at work nothing changes in what
`m` shows. -/
theorem Session.isolated {exchanges : List Exchange} {w : World ν}
    (h : Session app m exchanges w) (hlocal : w.Local app) :
    ∃ w', Session app m (exchanges.filter (·.command.manager = m)) w' ∧
      w.showing app m = w'.showing app m ∧
      ∀ (command : Command) (n : Nat), command.mode ≠ .spawned →
        ((State.start w command).steps app n).world.Local app →
        if command.manager = m then
          ((State.start w command).steps app n).result?
              = ((State.start w' command).steps app n).result? ∧
            (State.start w command).replies app n = (State.start w' command).replies app n ∧
            ((State.start w command).steps app n).world.showing app m
              = ((State.start w' command).steps app n).world.showing app m
        else
          ((State.start w command).steps app n).world.showing app m = w.showing app m := by
  obtain ⟨w', f, hsession', hmirrors⟩ := h.exists_mirror hlocal
  refine ⟨w', hsession', hmirrors.showing_eq, ?_⟩
  intro command n hmode hfurther
  have hinside := State.inside_start w rfl hmode
  split
  · rename_i hmanager
    subst hmanager
    have hs := h.reachable command
    have hs' := hsession'.reachable command
    have hstart := State.Mirrors.start hmirrors command
    have hend := hstart.steps hs hs' hinside hfurther
    exact ⟨hend.result?_eq, hstart.replies_eq hs hs' hinside hfurther, hend.world.showing_eq⟩
  · rename_i hmanager
    exact (hinside.spares hmanager hfurther).showing_eq

/-- A worker that fails whenever it is called, and a monitor that leaves a note at the first failure
and has the worker removed at another. Both may be registered with several managers. -/
def shift : Application Unit where
  hierarchy := ⟨fun _ => none⟩
  names := ⟨fun _ => "Event", fun _ => .labelled "Event"⟩
  settings _ := {}
  observerType?
    | 0 => some ⟨"Worker", false, [⟨.invoke, .custom 0, "work"⟩]⟩
    | 1 => some ⟨"Monitor", false, [⟨.invoke, .observerFailed, "watch"⟩]⟩
    | _ => none
  program m o _ _ :=
    match o with
    | 0 => .finish (.error ⟨"broken", []⟩)
    | _ => .recall fun notes =>
      if notes.toList.any (·.1 = m) then
        .perform { manager := m, operation := .remove 0 } fun _ => .finish (.ok ())
      else .note () (.finish (.ok ()))

/-- Both objects are registered with two managers, and each manager fires an event. The second
manager fires another one. -/
def shiftCommands : List Command :=
  [{ manager := 1, operation := .add 0 }, { operation := .add 0 },
    { manager := 1, operation := .add 1 }, { operation := .add 1 },
    { manager := 1, operation := .fire (.plain 0 "") }, { operation := .fire (.plain 0 "") },
    { manager := 1, operation := .fire (.plain 0 "") }]

theorem shift_programs_local (m : ManagerId) (o : ObjectId) (i : Nat) (part : Event) :
    (shift.program m o i part).Local m := by
  unfold shift
  dsimp only
  split
  · exact .finish
  · refine .recall ?_ ?_
    · intro notes
      simp
    · intro notes
      split
      · exact .perform rfl (by simp) fun _ => .finish
      · exact .note .finish

/-- The second failure that the monitor hears of through the second manager costs the worker its
place there. The first manager keeps the worker, until the monitor hears of a second failure through
this manager as well. -/
theorem shift_isolated_from_second_manager :
    ∃ exchanges w w', exchanges.map (·.command) = shiftCommands ∧ Session shift 0 exchanges w ∧
      w.Local shift ∧ (w.showing shift 1).observers = 1 ∧ (w.showing shift 0).observers = 2 ∧
      Session shift 0 (exchanges.filter (·.command.manager = 0)) w' ∧
      (w'.showing shift 0).observers = 2 ∧
      (((State.start w' { operation := .fire (.plain 0 "") }).steps shift 40).world.showing
        shift 0).observers = 1 := by
  have hlocal (w : World Unit) : w.Local shift := fun _ _ _ _ _ _ => shift_programs_local ..
  obtain ⟨exchanges, hcommands, h⟩ := Session.exists_after 40 shiftCommands
    (.nil : Session shift 0 [] {}) (by decide) (by decide +kernel)
  rw [List.nil_append] at h
  obtain ⟨w', hsession, hshowing, hmore⟩ := h.isolated (hlocal _)
  have hfire := hmore { operation := .fire (.plain 0 "") } 40 (by decide) (hlocal _)
  rw [if_pos rfl] at hfire
  refine ⟨exchanges, _, w', hcommands, h, hlocal _, by decide +kernel, by decide +kernel, hsession,
    ?_, ?_⟩
  · rw [← hshowing]
    decide +kernel
  · rw [← hfire.2.2]
    decide +kernel

end EventDispatch
