import EventDispatch.Assoc
import EventDispatch.Yaml.Piece

/-!
# Documents with resolved aliases

An anchor gives a number to the piece that it stands before, and an alias stands for the number that
its name has where the alias stands. The number is how many names have been set so far, so a name
that is set again takes the number that the next new name will take, too; what a number stands for
is the last piece that got it.
-/

set_option autoImplicit false

namespace EventDispatch.Yaml

/-- A piece with its alias resolved to a number. -/
inductive Content where
  | alias (number : Nat)
  | scalar (value : Scalar)
  | sequenceStart
  | sequenceEnd
  | mappingStart
  | mappingEnd
  deriving DecidableEq, Repr, Inhabited

/-- A document: its content, and the position of the piece that each number stands for. -/
structure Document where
  content : List Content := []
  targets : Assoc Nat Nat := ∅
  deriving DecidableEq, Repr, Inhabited

/-- The anchor that a piece sets. -/
def Piece.anchor? : Piece → Option (List Char)
  | .scalar anchor _ | .sequenceStart anchor | .mappingStart anchor => anchor
  | .alias _ | .sequenceEnd | .mappingEnd => none

/-- The anchors set so far: the number of each name, and the position of the piece that each number
stands for. -/
structure Anchors where
  numbers : Assoc (List Char) Nat := ∅
  targets : Assoc Nat Nat := ∅
  deriving DecidableEq, Repr, Inhabited

namespace Anchors

/-- The anchors after the piece in a position, which may set one. -/
def mark (anchors : Anchors) (position : Nat) : Option (List Char) → Anchors
  | none => anchors
  | some name =>
    let number := anchors.numbers.size
    { numbers := anchors.numbers.insert name number
      targets := anchors.targets.insert number position }

/-- A piece where these anchors are set. An alias of another name is an error. -/
def resolve (anchors : Anchors) : Piece → Except Fault Content
  | .alias name =>
    match anchors.numbers.find? name with
    | some number => .ok (.alias number)
    | none => .error .unknownAlias
  | .scalar _ value => .ok (.scalar value)
  | .sequenceStart _ => .ok .sequenceStart
  | .sequenceEnd => .ok .sequenceEnd
  | .mappingStart _ => .ok .mappingStart
  | .mappingEnd => .ok .mappingEnd

end Anchors

namespace Document

/-- The document of the pieces from a position on, with the anchors set before it. -/
def ofPieces (anchors : Anchors) (position : Nat) : List Piece → Except Fault Document
  | [] => .ok { targets := anchors.targets }
  | p :: rest => do
    let c ← anchors.resolve p
    let d ← ofPieces (anchors.mark position p.anchor?) (position + 1) rest
    .ok { d with content := c :: d.content }

/-- The scalar that a piece is or stands for. -/
def scalar? (d : Document) : Content → Option Scalar
  | .scalar value => some value
  | .alias number =>
    match (d.targets.find? number).bind (d.content[·]?) with
    | some (.scalar value) => some value
    | _ => none
  | _ => none

end Document

/-- Reads a document. A text without content has none. -/
def Document.parse (text : List Char) : Except Fault Document := do
  let tokens ← Token.scan text
  let pieces ← Piece.ofTokens? tokens
  Document.ofPieces {} 0 pieces

end EventDispatch.Yaml
