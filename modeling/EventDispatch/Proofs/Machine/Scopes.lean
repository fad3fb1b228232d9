import EventDispatch.Proofs.Machine.Run

/-!
# Scopes of a state

Everything that is under way belongs to a scope: a thread and a manager. A step acts in the scope of
the control, or of the topmost frame if the control is an outcome. Threads are told apart by numbers
that are never given twice, so a thread that is about to be started has nothing under way
(`Reachable.threaded`).
-/

set_option autoImplicit false

namespace EventDispatch

variable {ν : Type} {app : Application ν}

/-- The scope that a control belongs to. -/
def Control.scope? : Control ν → Option Scope
  | .run scope _ => some scope
  | .issue thread command => some ⟨thread, command.manager⟩
  | .perform scope _ => some scope
  | .dispatch scope _ _ => some scope
  | .deliver scope _ _ => some scope
  | .fail scope _ _ _ _ => some scope
  | _ => none

/-- The scope that a frame belongs to. -/
def Frame.scope? : Frame ν → Option Scope
  | .body scope _ => some scope
  | .attempt scope _ _ _ => some scope
  | .reporting scope _ _ _ _ => some scope
  | .firing scope _ _ => some scope
  | .contained | .joined => none

namespace State

/-- The scope in which the next step acts. -/
def scope? (s : State ν) : Option Scope :=
  s.control.scope? <|> s.stack.head?.bind Frame.scope?

/-- The scopes in which something is under way, innermost first. -/
def scopes (s : State ν) : List Scope :=
  s.control.scope?.toList ++ s.stack.filterMap Frame.scope?

/-- Everything that is under way is on threads whose numbers have been given, and so is the thread
that commands are issued on. -/
structure Threaded (s : State ν) : Prop where
  main : 0 < s.world.nextThread
  given : ∀ sc ∈ s.scopes, sc.thread < s.world.nextThread

end State

namespace World

variable (w : World ν) (scope : Scope)

@[simp] theorem nextThread_record (f : Fact ν) :
    (w.record scope f).nextThread = w.nextThread := rfl

@[simp] theorem nextThread_chronicle (k : Nat) (fs : List (Fact ν)) :
    (w.chronicle k scope fs).nextThread = w.nextThread := rfl

@[simp] theorem nextThread_addFailure (i : Nat) :
    (w.addFailure scope i).nextThread = w.nextThread := rfl

@[simp] theorem nextThread_join (o : ObjectId) (type : ObserverType) (fs : List (Fact ν)) :
    (w.join scope o type fs).nextThread = w.nextThread := rfl

@[simp] theorem nextThread_part (o : ObjectId) (fs : List (Fact ν)) :
    (w.part scope o fs).nextThread = w.nextThread := rfl

@[simp] theorem nextThread_enter : (w.enter scope).nextThread = w.nextThread := by
  unfold enter
  split <;> rfl

@[simp] theorem nextThread_leave (b : Bool) : (w.leave scope b).nextThread = w.nextThread := by
  cases b <;> rfl

@[simp] theorem nextThread_launch (app : Application ν) (origin : Origin) (event : Event) :
    (w.launch app scope origin event).nextThread = w.nextThread := by
  show (w.resolve app scope event.type).2.nextThread = w.nextThread
  have h := resolves_resolve app w scope event.type
  generalize w.resolve app scope event.type = r at h ⊢
  cases h <;> rfl

end World

/-- A step goes on in the scopes that it finds, or on the thread that it starts. -/
theorem Move.threaded {s t : State ν} (h : Move app s t) (hs : s.Threaded) : t.Threaded := by
  obtain ⟨hmain, hgiven⟩ := hs
  cases h with
  | spawned w thread command K hmode =>
    refine ⟨Nat.succ_pos _, ?_⟩
    intro sc hsc
    rcases List.mem_cons.1 hsc with rfl | hbelow
    · exact Nat.lt_succ_self _
    · exact Nat.lt_succ_of_lt (hgiven sc (List.mem_cons_of_mem _ hbelow))
  | rest => exact ⟨hmain, hgiven⟩
  | _ =>
    constructor
    · simpa using hmain
    · simp_all [State.scopes, Control.scope?, Frame.scope?, List.filterMap_cons,
        -List.mem_filterMap]

theorem Reachable.threaded {s : State ν} (hs : Reachable app s) : s.Threaded := by
  have hstart {w : World ν} (hmain : 0 < w.nextThread) (command : Command) :
      (State.start w command).Threaded := by
    refine ⟨hmain, ?_⟩
    intro sc hsc
    rw [List.mem_singleton.1 hsc]
    exact hmain
  apply hs.induction (P := State.Threaded)
  · intro command
    exact hstart Nat.zero_lt_one command
  · intro s t _ hmove h
    exact hmove.threaded h
  · intro s r command _ _ h
    exact hstart h.main command

end EventDispatch
