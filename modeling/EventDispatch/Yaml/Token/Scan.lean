import EventDispatch.Yaml.Token

/-!
# Splitting a document into tokens

The scanner reads one token after the other. In block context it keeps the columns of the block
collections that are open, and a token in a lesser column closes those of greater ones. A mapping
key need not be marked: whatever may be a key is remembered as a candidate, and when a colon follows
it on the same line, the key indicator, and the start of a mapping if the column calls for one, are
inserted before it. A candidate lapses at the end of its line and 1024 octets further on; one that
stands where only a key may stand must not lapse. The tokens are kept with the latest first, which
is near to where the insertions are made.
-/

set_option autoImplicit false

namespace EventDispatch.Yaml

/-- A token that may turn out to be a key: how many tokens stand before it, where it starts, and
whether nothing but a key may stand there. -/
structure Candidate where
  number : Nat
  mark : Mark
  required : Bool
  deriving DecidableEq, Repr, Inhabited

/-- Whether a candidate has lapsed at a position. -/
def Candidate.lapsed (c : Candidate) (m : Mark) : Bool :=
  c.mark.line < m.line || c.mark.index + 1024 < m.index

/-- The state of the scanner: the cursor, the tokens so far with the latest first, how many they
are, the columns of the open block collections from the innermost on, the candidate of the innermost
flow collection or of the block context, those of the collections around it, and whether a key may
start at the cursor. -/
structure Scanner where
  cursor : Cursor
  tokens : List Token := []
  count : Nat := 0
  indents : List Nat := []
  candidate : Option Candidate := none
  outer : List (Option Candidate) := []
  keyAllowed : Bool := true
  deriving DecidableEq, Repr, Inhabited

namespace Scanner

/-- Whether the cursor is inside a flow collection. -/
def inFlow (s : Scanner) : Bool := !s.outer.isEmpty

/-- The column of the cursor. -/
def column (s : Scanner) : Nat := s.cursor.mark.column

/-- The least column of text inside the innermost block collection. -/
def textColumn (s : Scanner) : Nat :=
  match s.indents with
  | [] => 0
  | i :: _ => i + 1

/-- Appends a token. -/
def emit (s : Scanner) (t : Token) : Scanner :=
  { s with tokens := t :: s.tokens, count := s.count + 1 }

/-- Inserts a token in the place of the token with the given number. -/
def insert (s : Scanner) (number : Nat) (t : Token) : Scanner :=
  { s with tokens := s.tokens.insertIdx (s.count - number) t, count := s.count + 1 }

/-- Moves over `n` characters. -/
def skip (s : Scanner) (n : Nat := 1) : Scanner := { s with cursor := s.cursor.skip n }

/-- Drops a candidate that has lapsed; one that had to be a key is an error. -/
def dropLapsed (m : Mark) : Option Candidate → Except Fault (Option Candidate)
  | none => .ok none
  | some c =>
    if c.lapsed m then (if c.required then .error .keyWithoutValue else .ok none) else .ok (some c)

/-- Drops the current candidate if it has lapsed at the cursor. Those of outer collections are
looked at when they become current again: what has lapsed stays lapsed. -/
def dropStale (s : Scanner) : Except Fault Scanner := do
  let candidate ← dropLapsed s.cursor.mark s.candidate
  .ok { s with candidate }

/-- Gives up the current candidate; one that has to be a key is an error. -/
def forgetKey (s : Scanner) : Except Fault Scanner :=
  if s.candidate.any (·.required) then .error .keyWithoutValue
  else .ok { s with candidate := none }

/-- Remembers the token that starts at the cursor as a candidate, if a key may start there. -/
def rememberKey (s : Scanner) : Except Fault Scanner :=
  if s.keyAllowed then do
    let required := !s.inFlow && s.indents.head? = some s.column
    let s ← s.forgetKey
    .ok { s with candidate := some ⟨s.count, s.cursor.mark, required⟩ }
  else .ok s

/-- Closes the open block collections in columns that `beyond` holds of. -/
def closeBlocks (beyond : Nat → Bool) (s : Scanner) : Scanner :=
  if s.inFlow then s
  else
    let closed := s.indents.takeWhile beyond
    { s with
      tokens := List.replicate closed.length .blockEnd ++ s.tokens
      count := s.count + closed.length
      indents := s.indents.drop closed.length }

/-- Opens a block collection in a column, unless one is open there or further right. Its start token
takes the place of the token with the given number. -/
def openBlock (s : Scanner) (column number : Nat) (start : Token) : Scanner :=
  if !s.inFlow && s.indents.head?.all (· < column) then
    { s.insert number start with indents := column :: s.indents }
  else s

/-- Takes a directive or a line that separates documents: all block collections end before it. -/
def atTopLevel (s : Scanner) : Except Fault Scanner := do
  let s ← (s.closeBlocks fun _ => true).forgetKey
  .ok { s with keyAllowed := false }

/-- Takes the start of a flow collection. -/
def openFlow (s : Scanner) (start : Token) : Except Fault Scanner := do
  let s ← s.rememberKey
  .ok ({ s with candidate := none, outer := s.candidate :: s.outer, keyAllowed := true }.emit
    start).skip

/-- Takes the end of a flow collection. -/
def closeFlow (s : Scanner) (close : Token) : Except Fault Scanner := do
  let s ← s.forgetKey
  let s := match s.outer with
    | [] => s
    | candidate :: outer => { s with candidate, outer }
  .ok ({ s with keyAllowed := false }.emit close).skip

/-- Takes the separator of entries in flow collections. -/
def flowEntry (s : Scanner) : Except Fault Scanner := do
  let s ← s.forgetKey
  .ok ({ s with keyAllowed := true }.emit .flowEntry).skip

/-- Opens a block collection at the cursor for an indicator that may stand only where a key may. -/
def openAtIndicator (s : Scanner) (start : Token) : Except Fault Scanner :=
  if s.inFlow then .ok s
  else if s.keyAllowed then .ok (s.openBlock s.column s.count start)
  else .error .misplacedIndicator

/-- Takes the indicator of an entry of a block sequence. -/
def blockEntry (s : Scanner) : Except Fault Scanner := do
  let s ← s.openAtIndicator .blockSequenceStart
  let s ← s.forgetKey
  .ok ({ s with keyAllowed := true }.emit .blockEntry).skip

/-- Takes the key indicator. -/
def keyIndicator (s : Scanner) : Except Fault Scanner := do
  let s ← s.openAtIndicator .blockMappingStart
  let s ← s.forgetKey
  .ok ({ s with keyAllowed := !s.inFlow }.emit .key).skip

/-- Takes the value indicator. A candidate before it becomes a key. -/
def valueIndicator (s : Scanner) : Except Fault Scanner :=
  match s.candidate with
  | some c =>
    let s := { s.insert c.number .key with candidate := none }
    let s := s.openBlock c.mark.column c.number .blockMappingStart
    .ok ({ s with keyAllowed := false }.emit .value).skip
  | none => do
    let s ← s.openAtIndicator .blockMappingStart
    .ok ({ s with keyAllowed := !s.inFlow }.emit .value).skip

/-- Takes a token that may be a key and that `read` reads. -/
def property (s : Scanner) (read : Cursor → Except Fault (Token × Cursor)) :
    Except Fault Scanner := do
  let s ← s.rememberKey
  let (token, cursor) ← read s.cursor
  .ok ({ s with keyAllowed := false, cursor }.emit token)

/-- Takes an anchor or an alias. -/
def anchor (s : Scanner) (make : List Char → Token) : Except Fault Scanner :=
  s.property fun k => do
    let (name, k) ← k.anchorName
    .ok (make name, k)

/-- Takes a tag. Only a gap may follow it, or an entry separator inside flow collections. -/
def tag (s : Scanner) : Except Fault Scanner :=
  s.property fun k => do
    let (token, k) ← k.tag
    if k.seesGap || (s.inFlow && k.sees ',') then .ok (token, k) else .error .tag

/-- Takes a block scalar. -/
def blockScalar (s : Scanner) (style : Style) : Except Fault Scanner := do
  let s ← s.forgetKey
  let (text, cursor) ← s.cursor.blockScalar (style = .folded) s.indents.head?
  .ok ({ s with keyAllowed := true, cursor }.emit (.scalar text style))

/-- Takes a quoted scalar. -/
def quotedScalar (s : Scanner) (style : Style) : Except Fault Scanner :=
  s.property fun k => do
    let (text, k) ← k.quotedScalar (style = .singleQuoted)
    .ok (.scalar text style, k)

/-- Takes a plain scalar. -/
def plainScalar (s : Scanner) : Except Fault Scanner := do
  let s ← s.rememberKey
  let (text, broken, cursor) ← s.cursor.plainScalar s.inFlow s.textColumn
  .ok ({ s with keyAllowed := broken, cursor }.emit (.scalar text .plain))

/-- Whether a plain scalar may start at the cursor. -/
def startsPlain (s : Scanner) : Bool :=
  match s.cursor.peek? with
  | none => false
  | some c =>
    if c = '-' then !(s.cursor.peek? 1).any isBlank
    else if c = '?' || c = ':' then !s.inFlow && !s.cursor.seesGap 1
    else
      !(isBlank c || isBreak c || endsFlowWord c || "#&*!|>'\"%@`".toList.contains c)

/-- Takes the token at the cursor, of which `c` is the first character. -/
def take (s : Scanner) (c : Char) : Except Fault Scanner :=
  if s.column = 0 && c = '%' then do
    let s ← s.atTopLevel
    let (token, cursor) ← s.cursor.directive
    .ok ({ s with cursor }.emit token)
  else if s.cursor.seesTriple '-' then do
    let s ← s.atTopLevel
    .ok ((s.emit .documentStart).skip 3)
  else if s.cursor.seesTriple '.' then do
    let s ← s.atTopLevel
    .ok ((s.emit .documentEnd).skip 3)
  else if c = '[' then s.openFlow .flowSequenceStart
  else if c = '{' then s.openFlow .flowMappingStart
  else if c = ']' then s.closeFlow .flowSequenceEnd
  else if c = '}' then s.closeFlow .flowMappingEnd
  else if c = ',' then s.flowEntry
  else if c = '-' && s.cursor.seesGap 1 then s.blockEntry
  else if c = '?' && (s.inFlow || s.cursor.seesGap 1) then s.keyIndicator
  else if c = ':' && (s.inFlow || s.cursor.seesGap 1) then s.valueIndicator
  else if c = '*' then s.anchor .alias
  else if c = '&' then s.anchor .anchor
  else if c = '!' then s.tag
  else if c = '|' && !s.inFlow then s.blockScalar .literal
  else if c = '>' && !s.inFlow then s.blockScalar .folded
  else if c = '\'' then s.quotedScalar .singleQuoted
  else if c = '"' then s.quotedScalar .doubleQuoted
  else if s.startsPlain then s.plainScalar
  else .error .strayCharacter

/-- Ends the document: the open block collections end, and no key may be left without a value. -/
def finish (s : Scanner) : Except Fault (List Token) := do
  let s ← (s.closeBlocks fun _ => true).forgetKey
  .ok s.tokens.reverse

/-- Reads tokens up to the end of the document. -/
def scan : Nat → Scanner → Except Fault (List Token)
  | 0, s => .ok s.tokens.reverse
  | fuel + 1, s => do
    let (keyAllowed, cursor) := Cursor.toToken s.inFlow s.keyAllowed s.cursor.rest s.cursor.mark
    -- A key that is missing its colon is found out here, before its mapping can close.
    let s ← { s with keyAllowed, cursor }.dropStale
    let s := s.closeBlocks (s.column < ·)
    match s.cursor.peek? with
    | none => s.finish
    | some c => do
      let s ← s.take c
      scan fuel s

end Scanner

/-- The tokens of a document. -/
def Token.scan (text : List Char) : Except Fault (List Token) :=
  if text.all isAllowed then Scanner.scan (text.length + 1) { cursor := { rest := text } }
  else .error .forbiddenCharacter

end EventDispatch.Yaml
