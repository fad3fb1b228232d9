import EventDispatch.Text.Combining
import EventDispatch.Text.Unprintable

/-!
# Texts of values, and log lines

A value with named parts is shown as `Name { part: text, … }`, one with positional parts as
`Name(text, …)`. Parts are given as texts already. Quoted text stands between double quotes. A
backslash marks the quote and the backslash itself, the tab, the two line ends and the null
character; a character that cannot be seen, or that would be drawn on its neighbour, is shown by its
code point in hexadecimal. All else stands for itself. A log line has a level, a message and named
fields.
-/

set_option autoImplicit false

namespace EventDispatch

namespace Text

/-! ## White space -/

/-- The code points of white space, as closed ranges in ascending order. -/
def blankRanges : List (Nat × Nat) :=
  [(0x09, 0x0d), (0x20, 0x20), (0x85, 0x85), (0xa0, 0xa0), (0x1680, 0x1680), (0x2000, 0x200a),
   (0x2028, 0x2029), (0x202f, 0x202f), (0x205f, 0x205f), (0x3000, 0x3000)]

/-- Whether a character is white space. -/
def isBlank (c : Char) : Bool :=
  blankRanges.any fun r => r.1 ≤ c.toNat && c.toNat ≤ r.2

/-! ## Records and tuples -/

/-- The text of a value with named parts; a value without parts is its name. -/
def record (name : String) (parts : List (String × String)) : String :=
  match parts with
  | [] => name
  | _ => name ++ " \x7b " ++ ", ".intercalate (parts.map fun p => p.1 ++ ": " ++ p.2) ++ " \x7d"

/-- The text of a value with positional parts. -/
def tuple (name : String) (parts : List String) : String :=
  name ++ "(" ++ ", ".intercalate parts ++ ")"

/-- The text of a truth value. -/
def bool (b : Bool) : String := if b then "true" else "false"

/-! ## Quoted text -/

/-- A number in lowercase hexadecimal, without leading zeros. -/
def hexadecimal (n : Nat) : String := String.ofList (Nat.toDigits 16 n)

/-- The form of one character inside quoted text. -/
def quotedForm (c : Char) : String :=
  if c = '\x00' then "\\0"
  else if c = '\t' then "\\t"
  else if c = '\r' then "\\r"
  else if c = '\n' then "\\n"
  else if c = '"' then "\\\""
  else if c = '\\' then "\\\\"
  else if 0x20 ≤ c.toNat && c.toNat ≤ 0x7e then c.toString
  else if isCombining c || isUnprintable c then "\\u\x7b" ++ hexadecimal c.toNat ++ "\x7d"
  else c.toString

/-- The quoted form of a text. -/
def quote (s : String) : String := "\"" ++ String.join (s.toList.map quotedForm) ++ "\""

end Text

/-! ## Log lines -/

/-- The level of a log line, in ascending order of urgency. -/
inductive Level where
  | debug
  | warn
  | error
  deriving DecidableEq, Repr, Inhabited

namespace Level

/-- The rank of a level. -/
def rank : Level → Nat
  | .debug => 0
  | .warn => 1
  | .error => 2

/-- The name of a level. -/
def name : Level → String
  | .debug => "debug"
  | .warn => "warn"
  | .error => "error"

end Level

/-- A field of a log line. -/
inductive Field where
  | text (value : String)
  | number (value : Nat)
  deriving DecidableEq, Repr, Inhabited

/-- A log line. -/
structure Line where
  level : Level
  message : String
  fields : List (String × Field) := []
  deriving DecidableEq, Repr, Inhabited

/-- Whether a line is shown under a threshold; without a threshold nothing is shown. -/
def Line.shownAt (threshold : Option Level) (line : Line) : Bool :=
  match threshold with
  | none => false
  | some level => level.rank ≤ line.level.rank

end EventDispatch
