import EventDispatch.Yaml.Cursor

/-!
# Reading scalars

A scalar on several lines is folded: between two pieces of text a single line end becomes a space,
and of several the first is dropped (`Gap.folded`). Plain scalars end where an indicator, a comment
or lesser indentation ends them; quoted ones end at their quote; block scalars keep or fold their
lines and end with lesser indentation. Each reader goes over the characters once, and keeps what may
yet turn out to be inside the scalar: the gap after a word, or the seam after a line.
-/

set_option autoImplicit false

namespace EventDispatch.Yaml

/-- What stands between two pieces of a scalar: blanks, and the text of the line ends after them.
Blanks count only where no line end follows. `escaped` tells that the first line end is written
off. -/
structure Gap where
  blanks : List Char := []
  breaks : List Char := []
  escaped : Bool := false
  deriving DecidableEq, Repr, Inhabited

namespace Gap

/-- Whether the gap reaches over a line end. -/
def broken (g : Gap) : Bool := !g.breaks.isEmpty

/-- The text that the gap contributes. -/
def folded (g : Gap) : List Char :=
  match g.breaks with
  | [] => g.blanks
  | first :: more =>
    if g.escaped then more
    else if first = '\n' then (if more.isEmpty then [' '] else more)
    else first :: more

/-- The gap with one more blank at its end. -/
def addBlank (g : Gap) (c : Char) : Gap :=
  if g.broken then g else { g with blanks := g.blanks ++ [c] }

/-- The gap with one more line end. -/
def addBreak (g : Gap) (c : Char) : Gap := { g with breaks := g.breaks ++ [c] }

end Gap

/-- The text of the gap before a word; inside a word there is none. -/
def lead (gap : Option Gap) : List Char := (gap.map Gap.folded).getD []

/-! ## Plain scalars -/

/-- Whether a character ends a plain scalar inside flow collections. -/
def endsFlowWord (c : Char) : Bool :=
  c = ',' || c = '[' || c = ']' || c = '{' || c = '}'

namespace Cursor

/-- Reads a plain scalar from inside a word, or from inside the gap after one. A colon ends the
scalar if a gap follows it; inside flow collections it may not be followed by a flow indicator.
Where lines must be indented by `indent`, a tab on a further line may not stand before that column.
The result tells whether a gap over a line end follows the scalar. -/
def plain (flow : Bool) (indent : Nat) :
    Option Gap → List Char → Mark → Except Fault (List Char × Bool × Cursor)
  | gap, [], m => .ok ([], gap.any Gap.broken, ⟨[], m⟩)
  | gap, '\r' :: '\n' :: rest, m =>
    plain flow indent ((gap.getD {}).addBreak '\n') rest (m.nextLine 2)
  | gap, c :: rest, m =>
    if isBreak c then
      plain flow indent ((gap.getD {}).addBreak (breakText c)) rest (m.nextLine c.utf8Size)
    else if isBlank c then
      if c = '\t' && gap.any Gap.broken && m.column < indent then .error .tabInIndentation
      else plain flow indent ((gap.getD {}).addBlank c) rest (m.right c)
    else
      let k : Cursor := ⟨c :: rest, m⟩
      -- A word that starts here may be no part of the scalar any more.
      let ended := gap.isSome && ((!flow && m.column < indent) || k.atDocumentLine || c = '#')
      if !ended && flow && c = ':' && rest.head?.any (fun d => endsFlowWord d || d = '?') then
        .error .unexpectedColon
      else if ended || (c = ':' && k.seesGap 1) || (flow && endsFlowWord c) then
        .ok ([], gap.any Gap.broken, k)
      else do
        let (text, broken, k) ← plain flow indent none rest (m.right c)
        .ok (lead gap ++ c :: text, broken, k)

/-- Reads a plain scalar. -/
def plainScalar (flow : Bool) (indent : Nat) (k : Cursor) :
    Except Fault (List Char × Bool × Cursor) :=
  plain flow indent none k.rest k.mark

end Cursor

/-! ## Quoted scalars -/

/-- The value of a hexadecimal digit. -/
def hexDigit? (c : Char) : Option Nat :=
  if c.isDigit then some (c.toNat - '0'.toNat)
  else if 'a' ≤ c && c ≤ 'f' then some (c.toNat - 'a'.toNat + 10)
  else if 'A' ≤ c && c ≤ 'F' then some (c.toNat - 'A'.toNat + 10)
  else none

/-- The number that hexadecimal digits write. -/
def hexNumber? (digits : List Char) : Option Nat :=
  digits.foldlM (fun n c => (hexDigit? c).map (n * 16 + ·)) 0

/-- The character of a code point. -/
def charOfCode? (n : Nat) : Option Char :=
  if h : n.isValidChar then some (Char.ofNatAux n h) else none

/-- The character that a one-letter escape stands for. -/
def simpleEscape? (c : Char) : Option Char :=
  match c with
  | '0' => some '\x00'
  | 'a' => some '\x07'
  | 'b' => some '\x08'
  | 't' | '\t' => some '\t'
  | 'n' => some '\n'
  | 'v' => some '\x0b'
  | 'f' => some '\x0c'
  | 'r' => some '\r'
  | 'e' => some '\x1b'
  | ' ' => some ' '
  | '"' => some '"'
  | '/' => some '/'
  | '\\' => some '\\'
  | 'N' => some '\u0085'
  | '_' => some '\u00a0'
  | 'L' => some '\u2028'
  | 'P' => some '\u2029'
  | _ => none

/-- How many digits an escape by number has. -/
def escapeDigits? (c : Char) : Option Nat :=
  match c with
  | 'x' => some 2
  | 'u' => some 4
  | 'U' => some 8
  | _ => none

/-- The character that the escape at the front stands for and the number of characters it takes,
the backslash included. -/
def escape? (ahead : List Char) : Option (Char × Nat) :=
  match ahead with
  | '\\' :: c :: rest =>
    match simpleEscape? c with
    | some d => some (d, 2)
    | none =>
      match escapeDigits? c with
      | some n =>
        if rest.length < n then none
        else
          (hexNumber? (rest.take n)).bind fun code =>
            (charOfCode? code).map fun d => (d, n + 2)
      | none => none
  | _ => none

namespace Cursor

/-- Reads a quoted scalar from inside its quotes. `left` characters of an escape are still to be
moved over; after a word comes the gap. A line end after a backslash is written off, together with
the blanks at the start of the next line. -/
def quoted (single : Bool) :
    (left : Nat) → Option Gap → List Char → Mark → Except Fault (List Char × Cursor)
  | _, _, [], _ => .error .unclosedQuote
  | left + 1, gap, c :: rest, m => quoted single left gap rest (m.right c)
  | 0, gap, '\r' :: '\n' :: rest, m =>
    quoted single 0 ((gap.getD {}).addBreak '\n') rest (m.nextLine 2)
  | 0, gap, c :: rest, m =>
    let k : Cursor := ⟨c :: rest, m⟩
    let add (text : List Char) (read : Except Fault (List Char × Cursor)) := do
      let (more, k) ← read
      .ok (text ++ more, k)
    if isBreak c then
      quoted single 0 ((gap.getD {}).addBreak (breakText c)) rest (m.nextLine c.utf8Size)
    else if isBlank c then quoted single 0 ((gap.getD {}).addBlank c) rest (m.right c)
    else if k.atDocumentLine then .error .unclosedQuote
    else if c = '\'' && single && k.sees '\'' 1 then
      add (lead gap ++ ['\'']) (quoted single 1 none rest (m.right c))
    else if c = (if single then '\'' else '"') then .ok (lead gap, k.skip)
    else if c = '\\' && !single then
      if (k.peek? 1).any isBreak then
        add (lead gap) (quoted single 0 (some { escaped := true }) rest (m.right c))
      else
        match escape? k.rest with
        | some (d, n) => add (lead gap ++ [d]) (quoted single (n - 1) none rest (m.right c))
        | none => .error .invalidEscape
    else add (lead gap ++ [c]) (quoted single 0 none rest (m.right c))

/-- Reads a quoted scalar, from its opening quote on. -/
def quotedScalar (single : Bool) (k : Cursor) : Except Fault (List Char × Cursor) :=
  quoted single 0 none k.skip.rest k.skip.mark

end Cursor

/-! ## Block scalars -/

/-- What happens to the line ends after a block scalar: all are dropped, one is kept, all are
kept. -/
inductive Chomping where
  | strip
  | clip
  | keep
  deriving DecidableEq, Repr, Inhabited

/-- What stands between two lines of a block scalar: the line end after the first, the empty lines
after it, and whether the first starts with a blank. -/
structure Seam where
  lineEnd : List Char := []
  breaks : List Char := []
  wasBlank : Bool := false
  deriving DecidableEq, Repr, Inhabited

namespace Seam

/-- The text of the seam before a line that starts with a blank or not. A line end is folded only
between two lines that start with text. -/
def text (folded : Bool) (isBlankLine : Bool) (s : Seam) : List Char :=
  let joint :=
    if folded && s.lineEnd = ['\n'] && !s.wasBlank && !isBlankLine then
      (if s.breaks.isEmpty then [' '] else [])
    else s.lineEnd
  joint ++ s.breaks

/-- The text of the seam after the last line. -/
def tail (chomping : Chomping) (s : Seam) : List Char :=
  match chomping with
  | .strip => []
  | .clip => s.lineEnd
  | .keep => s.lineEnd ++ s.breaks

/-- The seam with one more line end; inside a line it is the line's own. -/
def addBreak (inside : Bool) (c : Char) (s : Seam) : Seam :=
  if inside then { s with lineEnd := [c] } else { s with breaks := s.breaks ++ [c] }

end Seam

namespace Cursor

/-- The chomping indicator at the cursor. -/
def chomping? (k : Cursor) : Option Chomping :=
  if k.sees '+' then some .keep else if k.sees '-' then some .strip else none

/-- Reads the indentation indicator at the cursor, if there is one. -/
def blockIncrement (k : Cursor) : Except Fault (Option Nat × Cursor) :=
  match k.peek? with
  | some c =>
    if c = '0' then .error .blockHeader
    else if c.isDigit then .ok (some (c.toNat - '0'.toNat), k.skip)
    else .ok (none, k)
  | none => .ok (none, k)

/-- Reads the first line of a block scalar, from its indicator on: the chomping and the indentation
indicator in either order, blanks, and a comment. -/
def blockHeader (k : Cursor) : Except Fault (Chomping × Option Nat × Cursor) := do
  let k := k.skip
  let (chomping, increment, k) ← match k.chomping? with
    | some chomping => do
      let (increment, k) ← k.skip.blockIncrement
      .ok (chomping, increment, k)
    | none => do
      let (increment, k) ← k.blockIncrement
      match increment, k.chomping? with
      | some _, some chomping => .ok (chomping, increment, k.skip)
      | _, _ => .ok (.clip, increment, k)
  let k := k.skipBlanks.skipComment
  if k.atLineEnd then .ok (chomping, increment, k.takeBreak.2) else .error .blockHeader

/-- Moves over the empty lines ahead and the indentation of the line after them. With no known
indentation every space counts; the result tells the greatest column that was reached. -/
def blockBreaks (indent : Option Nat) :
    List Char → Nat → List Char → Mark → Except Fault (List Char × Nat × Cursor)
  | breaks, deepest, [], m => .ok (breaks, max deepest m.column, ⟨[], m⟩)
  | breaks, deepest, '\r' :: '\n' :: rest, m =>
    blockBreaks indent (breaks ++ ['\n']) (max deepest m.column) rest (m.nextLine 2)
  | breaks, deepest, c :: rest, m =>
    let within := indent.all (m.column < ·)
    if c = ' ' && within then blockBreaks indent breaks deepest rest (m.right c)
    else if c = '\t' && within then .error .tabInIndentation
    else if isBreak c then
      blockBreaks indent (breaks ++ [breakText c]) (max deepest m.column) rest
        (m.nextLine c.utf8Size)
    else .ok (breaks, max deepest m.column, ⟨c :: rest, m⟩)

/-- Reads the lines of a block scalar that are indented by `indent`, from inside a line or from the
start of one. -/
def blockLines (folded : Bool) (indent : Nat) (chomping : Chomping) :
    (inside : Bool) → Seam → List Char → Mark → Except Fault (List Char × Cursor)
  | _, s, [], m => .ok (s.tail chomping, ⟨[], m⟩)
  | inside, s, '\r' :: '\n' :: rest, m =>
    blockLines folded indent chomping false (s.addBreak inside '\n') rest (m.nextLine 2)
  | inside, s, c :: rest, m =>
    if isBreak c then
      blockLines folded indent chomping false (s.addBreak inside (breakText c)) rest
        (m.nextLine c.utf8Size)
    else if inside then do
      let (text, k) ← blockLines folded indent chomping true s rest (m.right c)
      .ok (c :: text, k)
    else if m.column < indent then
      if c = ' ' then blockLines folded indent chomping false s rest (m.right c)
      else if c = '\t' then .error .tabInIndentation
      else .ok (s.tail chomping, ⟨c :: rest, m⟩)
    else do
      let blank := isBlank c
      let (text, k) ←
        blockLines folded indent chomping true { wasBlank := blank } rest (m.right c)
      .ok (s.text folded blank ++ c :: text, k)

/-- Reads a block scalar inside collections indented by `outer`, from its indicator on. -/
def blockScalar (folded : Bool) (outer : Option Nat) (k : Cursor) :
    Except Fault (List Char × Cursor) := do
  let (chomping, increment, k) ← k.blockHeader
  let stated := increment.map fun n => n + outer.getD 0
  let (breaks, deepest, k) ← blockBreaks stated [] 0 k.rest k.mark
  -- Without an indicator the deepest of the empty lines and the first line decide.
  let least := match outer with
    | some n => max (n + 1) 1
    | none => 1
  let indent := stated.getD (max deepest least)
  blockLines folded indent chomping false { breaks } k.rest k.mark

end Cursor

end EventDispatch.Yaml
