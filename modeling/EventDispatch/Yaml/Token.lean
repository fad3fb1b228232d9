import EventDispatch.Yaml.Scalar

/-!
# Tokens of a document

A document is a sequence of tokens: the scalars, the indicators, and the starts and ends of block
collections, which the indentation gives. Anchors, aliases and handles are names of letters, digits,
dashes and underscores. The text of a tag is kept in octets: it is a row of the characters that
addresses may hold, a percent sign writes an octet by number, and the octets of a character are
written together.
-/

set_option autoImplicit false

namespace EventDispatch.Yaml

/-- How a scalar is written. -/
inductive Style where
  | plain
  | singleQuoted
  | doubleQuoted
  | literal
  | folded
  deriving DecidableEq, Repr, Inhabited

/-- A text in octets. -/
abbrev Octets := List UInt8

/-- A token. -/
inductive Token where
  | versionDirective (major minor : Nat)
  | tagDirective (handle : List Char) (start : Octets)
  | documentStart
  | documentEnd
  | blockSequenceStart
  | blockMappingStart
  | blockEnd
  | flowSequenceStart
  | flowSequenceEnd
  | flowMappingStart
  | flowMappingEnd
  | blockEntry
  | flowEntry
  | key
  | value
  | alias (name : List Char)
  | anchor (name : List Char)
  | tag (handle : List Char) (suffix : Octets)
  | scalar (text : List Char) (style : Style)
  deriving DecidableEq, Repr, Inhabited

/-! ## Reading anchors, tags and directives -/

/-- Whether a character may stand in the text of a tag; inside angle brackets and in directives the
flow indicators for sequences may, too. -/
def isTagChar (wide : Bool) (c : Char) : Bool :=
  isNameChar c || ";/?:@&=+$.%!~*'()".toList.contains c || (wide && (c = ',' || c = '[' || c = ']'))

/-- Whether an anchor may end before a character. -/
def endsAnchor (c : Char) : Bool :=
  isBlank c || isBreak c || "?:,]\x7d%@`".toList.contains c

/-- How many octets the encoding of a character has whose first octet is given. -/
def octetCount? (first : UInt8) : Option Nat :=
  if first &&& 0x80 = 0x00 then some 1
  else if first &&& 0xe0 = 0xc0 then some 2
  else if first &&& 0xf0 = 0xe0 then some 3
  else if first &&& 0xf8 = 0xf0 then some 4
  else none

/-- The octets that the text of a tag stands for, of which `due` have to continue the encoding of a
character. All octets of such a character are written by number. -/
def tagOctets? : (due : Nat) → List Char → Option Octets
  | 0, [] => some []
  | due, '%' :: a :: b :: rest => do
    let octet := (← hexNumber? [a, b]).toUInt8
    let due ← match due with
      | 0 => (octetCount? octet).map (· - 1)
      | due + 1 => if octet &&& 0xc0 = 0x80 then some due else none
    let octets ← tagOctets? due rest
    some (octet :: octets)
  | 0, c :: rest => if c = '%' then none else (tagOctets? 0 rest).map (c.toNat.toUInt8 :: ·)
  | _ + 1, _ => none

namespace Cursor

/-- Reads the text of a tag that starts with `start`. It may be empty only if `start` is not. A null
octet ends the text, and what is written after it counts for nothing. -/
def tagUri (wide : Bool) (start : List Char) (k : Cursor) : Except Fault (Octets × Cursor) :=
  let (written, k') := k.takeWhile (isTagChar wide)
  match tagOctets? 0 written with
  | none => .error .tag
  | some octets =>
    if written.isEmpty && start.isEmpty then .error .tag
    else .ok (((start.drop 1).map (·.toNat.toUInt8) ++ octets).takeWhile (· ≠ 0), k')

/-- Reads the handle of a tag: an exclamation mark, and a name with a second one if there is one. In
a directive the name has to be closed. -/
def tagHandle (directive : Bool) (k : Cursor) : Except Fault (List Char × Cursor) :=
  if k.sees '!' then
    let (name, k') := k.skip.takeWhile isNameChar
    if k'.sees '!' then .ok ('!' :: name ++ ['!'], k'.skip)
    else if directive && !name.isEmpty then .error .tag
    else .ok ('!' :: name, k')
  else .error .tag

/-- Reads a tag. -/
def tag (k : Cursor) : Except Fault (Token × Cursor) := do
  let (handle, suffix, k) ←
    if k.sees '<' 1 then do
      let (suffix, k) ← (k.skip 2).tagUri true []
      if k.sees '>' then .ok (([] : List Char), suffix, k.skip) else .error .tag
    else do
      let (handle, k) ← k.tagHandle false
      if 2 ≤ handle.length && handle.getLast? = some '!' then
        let (suffix, k) ← k.tagUri false []
        .ok (handle, suffix, k)
      else
        let (suffix, k) ← k.tagUri false handle
        if suffix.isEmpty then .ok (([] : List Char), ['!'.toNat.toUInt8], k)
        else .ok (['!'], suffix, k)
  .ok (.tag handle suffix, k)

/-- Reads the name of an anchor or alias, from its indicator on. -/
def anchorName (k : Cursor) : Except Fault (List Char × Cursor) :=
  let (name, k') := k.skip.takeWhile isNameChar
  if name.isEmpty || !(k'.peek?).all endsAnchor then .error .anchor else .ok (name, k')

/-- Reads a part of a version number: one to nine digits. -/
def versionNumber (k : Cursor) : Except Fault (Nat × Cursor) :=
  let (digits, k') := k.takeWhile Char.isDigit
  if digits.isEmpty || 9 < digits.length then .error .directive
  else .ok (digits.foldl (fun n c => n * 10 + (c.toNat - '0'.toNat)) 0, k')

/-- Reads what a directive of the given name states. -/
def directiveValue (name : List Char) (k : Cursor) : Except Fault (Token × Cursor) :=
  let k := k.skipBlanks
  if name = "YAML".toList then do
    let (major, k) ← k.versionNumber
    if k.sees '.' then
      let (minor, k) ← k.skip.versionNumber
      .ok (.versionDirective major minor, k)
    else .error .directive
  else if name = "TAG".toList then do
    let (handle, k) ← k.tagHandle true
    if (k.peek?).any isBlank then
      let (start, k) ← k.skipBlanks.tagUri true []
      if k.seesGap then .ok (.tagDirective handle start, k) else .error .directive
    else .error .directive
  else .error .directive

/-- Reads a directive, from its percent sign to the end of its line. -/
def directive (k : Cursor) : Except Fault (Token × Cursor) := do
  let (name, k) := k.skip.takeWhile isNameChar
  if name.isEmpty || !k.seesGap then .error .directive
  else
    let (token, k) ← k.directiveValue name
    let k := k.skipBlanks.skipComment
    if k.atLineEnd then .ok (token, k.takeBreak.2) else .error .directive

end Cursor

end EventDispatch.Yaml
