import EventDispatch.Settings
import EventDispatch.Yaml.Document

/-!
# Settings as a document

Settings are written as a mapping. Each of the two fields may be given once and has its default if
it is left out; other fields are passed over. A document without content, or with an empty plain
scalar for content, leaves both fields out.
-/

set_option autoImplicit false

namespace EventDispatch.Settings

open EventDispatch.Yaml

/-- The tag of whole numbers. -/
def intTag : Octets := "tag:yaml.org,2002:int".toUTF8.toList

/-- The tag of truth values. -/
def boolTag : Octets := "tag:yaml.org,2002:bool".toUTF8.toList

/-- Whether a scalar may be read as a value of the type that `tag` names: it is plain, or it is a
literal block with that tag. -/
def readable (tag : Octets) (s : Scalar) : Bool :=
  s.style = .plain || (s.style = .literal && s.tag = some tag)

/-- The value of a digit in a base. -/
def digit? (base : Nat) (c : Char) : Option Nat := (hexDigit? c).filter (· < base)

/-- The number that digits write in a base; there has to be one digit, and the number has to fit
into 64 bits. -/
def number? (base : Nat) (digits : List Char) : Option Nat :=
  if digits.isEmpty then none
  else
    (digits.foldlM (fun n c => (digit? base c).map (n * base + ·)) 0).filter (· < UInt64.size)

/-- The number in another base than ten that a text with the given start writes. -/
def basedNumber? (start : List Char) (base : Nat) (text : List Char) : Option Nat :=
  if start.isPrefixOf text then number? base (text.drop start.length) else none

/-- Whether a text has a sign at the front. -/
def signed (text : List Char) : Bool := text.head?.any fun c => c = '+' || c = '-'

/-- The text without a plus sign at the front. -/
def withoutPlus (text : List Char) : List Char :=
  match text with
  | '+' :: rest => rest
  | _ => text

/-- The text without a sign at the front. -/
def withoutSign (text : List Char) : List Char := if signed text then text.drop 1 else text

/-- Whether a text of several digits starts with a zero, after a sign if there is one. -/
def zeroLed (text : List Char) : Bool :=
  match withoutSign text with
  | '0' :: d :: rest => (d :: rest).all Char.isDigit
  | _ => false

/-- The whole number that a text writes: decimal without leading zeros, or hexadecimal, octal or
binary after `0x`, `0o`, `0b`. One plus sign may stand in front. -/
def wholeNumber? (text : List Char) : Option Nat :=
  let body := withoutPlus text
  let based :=
    [("0x".toList, 16), ("0o".toList, 8), ("0b".toList, 2)].findSome? fun (start, base) =>
      basedNumber? start base body
  -- A text that marks a base and then breaks off is no decimal number either.
  match based with
  | some n => some n
  | none => if signed body || zeroLed text then none else number? 10 body

/-- The truth value that a text writes. -/
def truthValue? (text : List Char) : Option Bool :=
  if ["true", "True", "TRUE"].any (·.toList = text) then some true
  else if ["false", "False", "FALSE"].any (·.toList = text) then some false
  else none

/-- The fields read so far. -/
structure Fields where
  maxDepth : Option Nat := none
  containPanics : Option Bool := none
  deriving DecidableEq, Repr, Inhabited

/-- The settings that the fields give. -/
def Fields.settings (f : Fields) : Settings :=
  let standard : Settings := {}
  { maxDepth := f.maxDepth.getD standard.maxDepth
    containPanics := f.containPanics.getD standard.containPanics }

/-- The two fields. -/
inductive Key where
  | maxDepth
  | containPanics
  deriving DecidableEq, Repr, Inhabited

/-- The field with the given name. -/
def Key.ofName? (name : List Char) : Option Key :=
  if name = "max_hierarchy_depth".toList then some .maxDepth
  else if name = "catch_panics".toList then some .containPanics
  else none

/-- The whole number that a scalar states. -/
def scalarNumber? (s : Scalar) : Option Nat :=
  if readable intTag s then wholeNumber? s.text else none

/-- The truth value that a scalar states. -/
def scalarTruth? (s : Scalar) : Option Bool :=
  if readable boolTag s then truthValue? s.text else none

/-- The fields with one more, as a scalar states it. It may not have been given before. -/
def Fields.set (f : Fields) (s : Scalar) : Key → Except Fault Fields
  | .maxDepth =>
    match f.maxDepth, scalarNumber? s with
    | none, some n => .ok { f with maxDepth := some n }
    | _, _ => .error .wrongShape
  | .containPanics =>
    match f.containPanics, scalarTruth? s with
    | none, some b => .ok { f with containPanics := some b }
    | _, _ => .error .wrongShape

/-- Where the reading of a mapping stands: before a key, before the value of a field, before a value
to pass over, or inside one, with so many collections open. -/
inductive Place where
  | key
  | value (key : Key)
  | unused
  | inside (depth : Nat)
  deriving DecidableEq, Repr, Inhabited

/-- Where the reading stands after a piece of a value to pass over that has `depth` collections open
before it. -/
def Place.pass (depth : Nat) : Content → Place
  | .sequenceStart | .mappingStart => .inside (depth + 1)
  | .sequenceEnd | .mappingEnd => if depth ≤ 1 then .key else .inside (depth - 1)
  | .scalar _ | .alias _ => if depth = 0 then .key else .inside depth

/-- Reads the entries of a mapping up to its end. -/
def Fields.read (d : Document) : Fields → Place → List Content → Except Fault Fields
  | f, _, [] => .ok f
  | f, place, c :: rest =>
    match place with
    | .key =>
      if c = .mappingEnd then .ok f
      else
        match d.scalar? c with
        | none => .error .wrongShape
        | some name =>
          match Key.ofName? name.text with
          | some key => read d f (.value key) rest
          | none => read d f .unused rest
    | .value key =>
      match d.scalar? c with
      | none => .error .wrongShape
      | some s => do
        let f ← f.set s key
        read d f .key rest
    | .unused => read d f (Place.pass 0 c) rest
    | .inside depth => read d f (Place.pass depth c) rest

/-- The settings that a document states. -/
def ofDocument (d : Document) : Except Fault Settings :=
  match d.content with
  | [] => .ok {}
  | [.scalar value] =>
    if value.text.isEmpty && value.style = .plain then .ok {} else .error .wrongShape
  | .mappingStart :: rest => do
    let fields ← Fields.read d {} .key rest
    .ok fields.settings
  | _ => .error .wrongShape

end EventDispatch.Settings
