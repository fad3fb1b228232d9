import EventDispatch.Machine.World

/-!
# States of the machine

A state consists of the world, what the machine is about to do, and a stack of what is waiting for
it to be done, innermost first. A handler that asks for an operation waits on the stack for the
reply; so does a delivery whose handler is running, and a failed attempt whose report is being
delivered.
-/

set_option autoImplicit false

namespace EventDispatch

variable {ν : Type}

/-- What waits on the stack. -/
inductive Frame (ν : Type) where
  /-- A handler that waits for the reply to an operation. -/
  | body (scope : Scope) (next : Reply → Program ν)
  /-- A delivery that waits for a handler to end; `rest` is to be attempted after it. -/
  | attempt (scope : Scope) (delivery : Delivery) (handler : BoundHandler)
      (rest : List BoundHandler)
  /-- A failed attempt that waits for its report to be delivered. -/
  | reporting (scope : Scope) (delivery : Delivery) (handler : BoundHandler) (failure : Failure)
      (rest : List BoundHandler)
  /-- An operation that waits for its event to be delivered and then gives `reply`; the outermost
  fire of its scope ends the scope's guard. -/
  | firing (scope : Scope) (outermost : Bool) (reply : Reply)
  /-- An operation whose panic becomes a reply. -/
  | contained
  /-- A thread that waits for the operation on another thread. -/
  | joined

/-- What the machine is about to do. -/
inductive Control (ν : Type) where
  /-- Run a handler's program. -/
  | run (scope : Scope) (program : Program ν)
  /-- Carry out a command for a thread. -/
  | issue (thread : ThreadId) (command : Command)
  /-- Carry out an operation. -/
  | perform (scope : Scope) (operation : Operation)
  /-- Dispatch an event within a fire under way. -/
  | dispatch (scope : Scope) (origin : Origin) (event : Event)
  /-- Deliver an event to the handlers that are left of its plan. -/
  | deliver (scope : Scope) (delivery : Delivery) (handlers : List BoundHandler)
  /-- Deal with a failed attempt. -/
  | fail (scope : Scope) (delivery : Delivery) (handler : BoundHandler) (failure : Failure)
      (rest : List BoundHandler)
  /-- A handler has ended with a result. -/
  | returned (result : Except ErrorChain Unit)
  /-- A dispatch has ended. -/
  | completed
  /-- An operation has ended with a reply. -/
  | answered (reply : Reply)
  /-- A panic is on its way out. -/
  | unwinding (payload : Payload)
  /-- Nothing more: an operation gives no reply. -/
  | stuck

/-- A state of the machine. -/
structure State (ν : Type) where
  world : World ν
  control : Control ν
  stack : List (Frame ν) := []

namespace State

/-- The state in which a thread is about to carry out a command and nothing else is under way. -/
def start (world : World ν) (command : Command) (thread : ThreadId := 0) : State ν where
  world
  control := .issue thread command

/-- How the run of a command has ended: with a reply or with a panic. -/
def result? (s : State ν) : Option (Except Payload Reply) :=
  match s.control, s.stack with
  | .answered reply, [] => some (.ok reply)
  | .unwinding payload, [] => some (.error payload)
  | _, _ => none

end State

end EventDispatch
