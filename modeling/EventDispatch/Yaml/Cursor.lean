/-!
# Reading positions in a document

A cursor holds the characters that are left of a document and counts what has been read: octets of
the encoded text, lines, and characters on the current line. Moving over a character and moving over
a line end are the only two moves. A line end is a line feed, a carriage return, both in a row, or
one of the three further separators; the first three and the next-line character all count as a line
feed in the text.
-/

set_option autoImplicit false

namespace EventDispatch.Yaml

/-- What is wrong with a document. -/
inductive Fault where
  /-- A character that no document may hold. -/
  | forbiddenCharacter
  /-- A character that starts no token. -/
  | strayCharacter
  /-- A key that has to be followed by a colon, and is not. -/
  | keyWithoutValue
  /-- An entry, a key or a value where none may stand. -/
  | misplacedIndicator
  /-- A tab in the indentation. -/
  | tabInIndentation
  /-- A colon inside a plain scalar that a flow indicator follows. -/
  | unexpectedColon
  /-- A quoted scalar that does not end. -/
  | unclosedQuote
  /-- An escape that stands for nothing. -/
  | invalidEscape
  /-- A block scalar with an unreadable first line. -/
  | blockHeader
  /-- A directive that cannot be read, or that is given twice. -/
  | directive
  /-- An anchor or alias without a name, or with a name that does not end properly. -/
  | anchor
  /-- A tag that cannot be read, or whose handle is not declared. -/
  | tag
  /-- Tokens in an order that no document has. -/
  | unexpectedToken
  /-- An alias of an anchor that has not been set. -/
  | unknownAlias
  /-- More than one document. -/
  | furtherDocument
  /-- A document of the wrong shape: not a mapping, a key that is no scalar, a field of the wrong
  type or given twice. -/
  | wrongShape
  deriving DecidableEq, Repr, Inhabited

/-- Whether a character is a space or a tab. -/
def isBlank (c : Char) : Bool := c = ' ' || c = '\t'

/-- Whether a character ends a line. -/
def isBreak (c : Char) : Bool :=
  c = '\r' || c = '\n' || c = '\u0085' || c = '\u2028' || c = '\u2029'

/-- The character that a line end contributes to the text. -/
def breakText (c : Char) : Char :=
  if c = '\u2028' || c = '\u2029' then c else '\n'

/-- Whether a character may stand in names of anchors, tag handles and directives. -/
def isNameChar (c : Char) : Bool :=
  c.isAlphanum || c = '_' || c = '-'

/-- Whether a character may stand in a document. -/
def isAllowed (c : Char) : Bool :=
  let n := c.toNat
  n = 0x09 || n = 0x0a || n = 0x0d || (0x20 ≤ n && n ≤ 0x7e) || n = 0x85
    || (0xa0 ≤ n && n ≤ 0xd7ff) || (0xe000 ≤ n && n ≤ 0xfffd) || 0x10000 ≤ n

/-- A position: how many octets and lines stand before it, and how many characters stand before it
on its line. -/
structure Mark where
  index : Nat := 0
  line : Nat := 0
  column : Nat := 0
  deriving DecidableEq, Repr, Inhabited

namespace Mark

/-- The position after a character on the same line. -/
def right (m : Mark) (c : Char) : Mark :=
  { m with index := m.index + c.utf8Size, column := m.column + 1 }

/-- The position after a text on the same line. -/
def after (m : Mark) (text : List Char) : Mark := text.foldl right m

/-- The position after a line end of `n` octets. -/
def nextLine (m : Mark) (n : Nat) : Mark where
  index := m.index + n
  line := m.line + 1
  column := 0

end Mark

/-- What is left of a document and where that starts. -/
structure Cursor where
  rest : List Char
  mark : Mark := {}
  deriving DecidableEq, Repr, Inhabited

namespace Cursor

/-- The `n`-th character ahead. -/
def peek? (k : Cursor) (n : Nat := 0) : Option Char := k.rest[n]?

/-- Whether the `n`-th character ahead is `c`. -/
def sees (k : Cursor) (c : Char) (n : Nat := 0) : Bool := k.peek? n == some c

/-- Whether nothing, a blank or a line end stands `n` characters ahead. -/
def seesGap (k : Cursor) (n : Nat := 0) : Bool :=
  match k.peek? n with
  | none => true
  | some c => isBlank c || isBreak c

/-- Whether a line end or the end of the document stands at the cursor. -/
def atLineEnd (k : Cursor) : Bool :=
  match k.peek? with
  | none => true
  | some c => isBreak c

/-- Moves over `n` characters of the line. -/
def skip (k : Cursor) (n : Nat := 1) : Cursor := ⟨k.rest.drop n, k.mark.after (k.rest.take n)⟩

/-- Moves over the line end at the cursor, if there is one, and gives the text of it. -/
def takeBreak (k : Cursor) : List Char × Cursor :=
  match k.rest with
  | '\r' :: '\n' :: rest => (['\n'], ⟨rest, k.mark.nextLine 2⟩)
  | c :: rest =>
    if isBreak c then ([breakText c], ⟨rest, k.mark.nextLine c.utf8Size⟩) else ([], k)
  | [] => ([], k)

/-- Moves over the characters ahead that satisfy `p`, none of which ends a line. -/
def takeWhile (p : Char → Bool) (k : Cursor) : List Char × Cursor :=
  let text := k.rest.takeWhile p
  (text, ⟨k.rest.dropWhile p, k.mark.after text⟩)

/-- Moves over blanks. -/
def skipBlanks (k : Cursor) : Cursor := (k.takeWhile isBlank).2

/-- Moves to the end of the line if a comment starts at the cursor. -/
def skipComment (k : Cursor) : Cursor :=
  if k.sees '#' then (k.takeWhile fun c => !isBreak c).2 else k

/-- Whether a line with three times the character `c`, and nothing attached to it, starts at the
cursor. -/
def seesTriple (k : Cursor) (c : Char) : Bool :=
  k.mark.column = 0 && k.sees c && k.sees c 1 && k.sees c 2 && k.seesGap 3

/-- Whether a line that separates documents starts at the cursor. -/
def atDocumentLine (k : Cursor) : Bool := k.seesTriple '-' || k.seesTriple '.'

/-- Moves over spaces, comments and line ends up to the next token. Tabs are skipped where they
cannot be taken for indentation: inside flow collections, and where no key may start. A line end
outside flow collections allows a key to start. A byte order mark may start a line. -/
def toToken (flow : Bool) : Bool → List Char → Mark → Bool × Cursor
  | allowed, [], m => (allowed, ⟨[], m⟩)
  | allowed, '\r' :: '\n' :: rest, m => toToken flow (allowed || !flow) rest (m.nextLine 2)
  | allowed, c :: rest, m =>
    if isBreak c then toToken flow (allowed || !flow) rest (m.nextLine c.utf8Size)
    else if c = ' ' || (c = '\uFEFF' && m.column = 0) || (c = '\t' && (flow || !allowed)) then
      toToken flow allowed rest (m.right c)
    else if c = '#' then inComment allowed rest (m.right c)
    else (allowed, ⟨c :: rest, m⟩)
where
  /-- Moves over the rest of a comment and what follows it. -/
  inComment : Bool → List Char → Mark → Bool × Cursor
  | allowed, [], m => (allowed, ⟨[], m⟩)
  | allowed, '\r' :: '\n' :: rest, m => toToken flow (allowed || !flow) rest (m.nextLine 2)
  | allowed, c :: rest, m =>
    if isBreak c then toToken flow (allowed || !flow) rest (m.nextLine c.utf8Size)
    else inComment allowed rest (m.right c)

end Cursor

end EventDispatch.Yaml
