import EventDispatch.Text

/-!
# Failures of handlers

A call of a handler fails in one of three ways: the handler returns an error, it panics, or the
event holds no part of the type that the handler is bound for. The last one lies in the event and
not in the observer, so it counts as mechanical.
-/

set_option autoImplicit false

namespace EventDispatch

/-- An error returned by a handler: a message and the contexts added to it, the first one first. -/
structure ErrorChain where
  message : String
  contexts : List String := []
  deriving DecidableEq, Repr, Inhabited

namespace ErrorChain

/-- All messages of the chain, the outermost context first. -/
def messages (e : ErrorChain) : List String := e.contexts.reverse ++ [e.message]

/-- The chain on one line. -/
def text (e : ErrorChain) : String := ": ".intercalate e.messages

/-- One cause in the detailed text. A lone cause is indented, one of several carries its number in a
field of five; further lines of the cause are indented to match. -/
def causeLines (number : Option Nat) (cause : String) : String :=
  match number with
  | none => "    " ++ "\n    ".intercalate (cause.splitOn "\n")
  | some n =>
    let digits := toString n
    "".pushn ' ' (5 - digits.length) ++ digits ++ ": "
      ++ "\n       ".intercalate (cause.splitOn "\n")

/-- The detailed text: the outermost message, then the causes below it. -/
def detail (e : ErrorChain) : String :=
  match e.messages with
  | [] => ""
  | [only] => only
  | [outer, cause] => outer ++ "\n\nCaused by:\n" ++ causeLines none cause
  | outer :: causes =>
    outer ++ "\n\nCaused by:\n"
      ++ "\n".intercalate (causes.zipIdx.map fun c => causeLines (some c.2) c.1)

end ErrorChain

/-- What a panic carries: a text, or a value that is no text. -/
inductive Payload where
  | text (message : String)
  | other
  deriving DecidableEq, Repr, Inhabited

/-- The message under which a panic is reported. -/
def Payload.message : Payload → String
  | .text message => message
  | .other => "non-string panic payload"

/-- Why a call of a handler failed. -/
inductive Failure where
  | returned (error : ErrorChain)
  | panicked (message : String)
  | eventMismatch (expected actual : String)
  deriving DecidableEq, Repr, Inhabited

namespace Failure

/-- Whether the failure comes from the event and not from the observer. -/
def isMechanical : Failure → Bool
  | .eventMismatch .. => true
  | _ => false

/-- The message of a failure. -/
def message : Failure → String
  | .returned error => error.text
  | .panicked message => "handler panicked: " ++ message
  | .eventMismatch expected actual =>
    "event " ++ actual ++ " does not expose a " ++ expected ++ " value"

/-- The detailed text of a failure. -/
def detail : Failure → String
  | .returned error => Text.tuple "Handler" [error.detail]
  | .panicked message => Text.tuple "Panicked" [Text.quote message]
  | .eventMismatch expected actual =>
    Text.record "EventMismatch"
      [("expected", Text.quote expected), ("actual", Text.quote actual)]

end Failure

end EventDispatch
