import EventDispatch.Proofs.Yaml.Scan

/-!
# Lines of pairs

A line with a word, a colon, a space and a word is a pair of a key and its value. The scanner takes
three tokens from such a line and makes the first of them a key (`Scanner.scan_line`), so lines of
pairs are one block mapping (`Pair.tokens_lines`), which has the words of the pairs for content
(`Document.parse_lines`). A word is made of letters, digits, underscores and plus signs, which no
other token may start with.
-/

set_option autoImplicit false

namespace EventDispatch.Yaml

/-! ## Words -/

/-- Whether a character may stand in a word: a letter, a digit, an underscore or a plus sign. -/
def isWordChar (c : Char) : Bool :=
  c.isDigit || ('a' ≤ c && c ≤ 'z') || ('A' ≤ c && c ≤ 'Z') || c = '_' || c = '+'

section WordChar

variable {c : Char} (hc : isWordChar c)
include hc

theorem ne_of_isWordChar (x : Char) (hx : isWordChar x = false) : c ≠ x := by
  rintro rfl
  rw [hx] at hc
  cases hc

theorem toNat_of_isWordChar : 0x20 ≤ c.toNat ∧ c.toNat ≤ 0x7e := by
  simp only [isWordChar, Char.isDigit, Bool.or_eq_true, Bool.and_eq_true, decide_eq_true_eq,
    Char.le_def, UInt32.le_iff_toNat_le] at hc
  rcases hc with (((⟨h1, h2⟩ | ⟨h1, h2⟩) | ⟨h1, h2⟩) | rfl) | rfl
  all_goals first
    | decide
    | exact ⟨Nat.le_trans (by decide) h1, Nat.le_trans h2 (by decide)⟩

theorem not_mem_indicators_of_isWordChar : c ∉ indicators := by
  intro hmem
  have hnone : indicators.all (fun x => !isWordChar x) := by decide
  have hnot := List.all_eq_true.1 hnone c hmem
  rw [hc] at hnot
  cases hnot

theorem isBlank_of_isWordChar : isBlank c = false := by
  simp [isBlank, ne_of_isWordChar hc ' ' rfl, ne_of_isWordChar hc '\t' rfl]

theorem isBreak_of_isWordChar : isBreak c = false := by
  simp [isBreak, ne_of_isWordChar hc '\r' rfl, ne_of_isWordChar hc '\n' rfl,
    ne_of_isWordChar hc '\u0085' rfl, ne_of_isWordChar hc '\u2028' rfl,
    ne_of_isWordChar hc '\u2029' rfl]

theorem isAllowed_of_isWordChar : isAllowed c := by
  have hrange := toNat_of_isWordChar hc
  simp [isAllowed, hrange]

theorem utf8Size_of_isWordChar : c.utf8Size = 1 := by
  have hrange := toNat_of_isWordChar hc
  rw [Char.utf8Size_eq_one_iff]
  exact UInt32.le_iff_toNat_le.2 (Nat.le_trans hrange.2 (by decide))

end WordChar

/-- A word. -/
structure IsWord (text : List Char) : Prop where
  ne_nil : text ≠ []
  chars : ∀ c ∈ text, isWordChar c

theorem isWord_of_all {text : List Char} (hne : text ≠ []) (h : text.all isWordChar) :
    IsWord text := ⟨hne, List.all_eq_true.1 h⟩

/-- A text that is left over starts with a word, unless it is empty. -/
def StartsLine (rest : List Char) : Prop := ∀ c ∈ rest.head?, isWordChar c

/-! ## Reading words -/

namespace Mark

theorem after_cons (m : Mark) (c : Char) (text : List Char) :
    m.after (c :: text) = (m.right c).after text := rfl

theorem after_word {text : List Char} (h : ∀ c ∈ text, isWordChar c) (m : Mark) :
    m.after text = ⟨m.index + text.length, m.line, m.column + text.length⟩ := by
  induction text generalizing m with
  | nil => rfl
  | cons c text ih =>
    rw [after_cons, ih (fun d hd => h d (List.mem_cons_of_mem c hd))]
    rw [right, utf8Size_of_isWordChar (h c List.mem_cons_self), List.length_cons]
    simp only [Nat.add_assoc, Nat.add_comm 1]

end Mark

namespace Cursor

theorem toToken_of_isWordChar {c : Char} (hc : isWordChar c) (flow allowed : Bool)
    (rest : List Char) (m : Mark) :
    toToken flow allowed (c :: rest) m = (allowed, ⟨c :: rest, m⟩) := by
  simp [toToken, isBreak_of_isWordChar hc, ne_of_isWordChar hc '\r' rfl,
    ne_of_isWordChar hc ' ' rfl, ne_of_isWordChar hc '\uFEFF' rfl, ne_of_isWordChar hc '\t' rfl,
    ne_of_isWordChar hc '#' rfl]

theorem plain_cons_of_isWordChar {c : Char} (hc : isWordChar c) (indent : Nat)
    (rest : List Char) (m : Mark) :
    plain false indent none (c :: rest) m
      = (plain false indent none rest (m.right c)).map
          fun (text, broken, k) => (c :: text, broken, k) := by
  have hcr : ∀ more, c = '\r' → rest = '\n' :: more → False :=
    fun _ h => absurd h (ne_of_isWordChar hc '\r' rfl)
  have hcolon : c ≠ ':' := ne_of_isWordChar hc ':' rfl
  rw [plain, isBreak_of_isWordChar hc, isBlank_of_isWordChar hc]
  · simp only [Bool.false_eq_true, if_false, Option.isSome_none, Bool.false_and, Bool.and_false,
      hcolon, decide_false, Bool.or_false]
    cases plain false indent none rest (m.right c) <;> rfl
  · exact hcr

theorem plain_word {text : List Char} (h : ∀ c ∈ text, isWordChar c) (indent : Nat)
    (rest : List Char) (m : Mark) :
    plain false indent none (text ++ rest) m
      = (plain false indent none rest (m.after text)).map
          fun (more, broken, k) => (text ++ more, broken, k) := by
  induction text generalizing m with
  | nil =>
    rw [Mark.after, List.foldl_nil, List.nil_append]
    cases plain false indent none rest m <;> rfl
  | cons c text ih =>
    rw [List.cons_append, plain_cons_of_isWordChar (h c List.mem_cons_self),
      ih (fun d hd => h d (List.mem_cons_of_mem c hd)), Mark.after_cons]
    cases plain false indent none rest ((m.right c).after text) <;> rfl

/-- A word before a colon and a space ends there. -/
theorem plain_before_colon {text : List Char} (h : ∀ c ∈ text, isWordChar c) (indent : Nat)
    (rest : List Char) (m : Mark) :
    (⟨text ++ ':' :: ' ' :: rest, m⟩ : Cursor).plainScalar false indent
      = .ok (text, false, ⟨':' :: ' ' :: rest, m.after text⟩) := by
  rw [plainScalar, plain_word h]
  simp [plain, isBreak, isBlank, seesGap, peek?, Except.map]

/-- A word at the end of a line ends there if the next line starts with a word in column zero. -/
theorem plain_before_line {text : List Char} (h : ∀ c ∈ text, isWordChar c) {indent : Nat}
    (hindent : 0 < indent) {rest : List Char} (hrest : StartsLine rest) (m : Mark) :
    (⟨text ++ '\n' :: rest, m⟩ : Cursor).plainScalar false indent
      = .ok (text, true, ⟨rest, (m.after text).nextLine 1⟩) := by
  rw [plainScalar, plain_word h]
  have hline : plain false indent none ('\n' :: rest) (m.after text)
      = plain false indent (some (({} : Gap).addBreak '\n')) rest ((m.after text).nextLine 1) := by
    rw [plain]
    · rfl
    · simp
  rw [hline]
  cases rest with
  | nil => simp [plain, Gap.addBreak, Gap.broken, Except.map]
  | cons c rest =>
    have hc : isWordChar c := hrest c rfl
    simp [plain, ne_of_isWordChar hc '\r' rfl, isBreak_of_isWordChar hc, isBlank_of_isWordChar hc,
      Gap.addBreak, Gap.broken, Except.map, Mark.nextLine, hindent]

end Cursor

/-! ## Scanning a line -/

namespace Scanner

/-- The scanner at the start of a line, in block context. -/
def atLine (rest : List Char) (m : Mark) (tokens : List Token) (count : Nat) (indents : List Nat) :
    Scanner where
  cursor := ⟨rest, m⟩
  tokens := tokens
  count := count
  indents := indents

theorem closeBlocks_zero {s : Scanner} {beyond : Nat → Bool} (hindents : ∀ i ∈ s.indents, i = 0)
    (hbeyond : beyond 0 = false) : s.closeBlocks beyond = s := by
  obtain ⟨cursor, tokens, count, indents, candidate, outer, keyAllowed⟩ := s
  cases indents with
  | nil => simp [closeBlocks]
  | cons i indents =>
    obtain rfl : i = 0 := hindents i List.mem_cons_self
    simp [closeBlocks, hbeyond]

theorem dropStale_eq {s : Scanner} (h : ∀ c ∈ s.candidate, c.lapsed s.cursor.mark = false) :
    s.dropStale = .ok s := by
  obtain ⟨cursor, tokens, count, indents, candidate, outer, keyAllowed⟩ := s
  cases candidate with
  | none => rfl
  | some c =>
    have hc : c.lapsed cursor.mark = false := h c rfl
    rw [dropStale, dropLapsed, hc]
    rfl

/-- Where no candidate lapses and no block collection is open but in column zero, the scanner only
moves to the next token. -/
theorem ready_eq {s : Scanner} {k : Cursor}
    (hmove : Cursor.toToken s.inFlow s.keyAllowed s.cursor.rest s.cursor.mark = (s.keyAllowed, k))
    (hcandidate : ∀ c ∈ s.candidate, c.lapsed k.mark = false) (hindents : ∀ i ∈ s.indents, i = 0) :
    s.ready = .ok { s with cursor := k } := by
  rw [ready, hmove]
  dsimp only
  rw [dropStale_eq hcandidate]
  exact congrArg Except.ok (closeBlocks_zero hindents rfl)

theorem rememberKey_of_allowed {s : Scanner} (hallowed : s.keyAllowed)
    (hcandidate : s.candidate = none) :
    s.rememberKey
      = .ok { s with
          candidate :=
            some ⟨s.count, s.cursor.mark, !s.inFlow && s.indents.head? = some s.column⟩ } := by
  rw [rememberKey, if_pos hallowed, forgetKey, hcandidate]
  rfl

theorem rememberKey_of_not_allowed {s : Scanner} (hallowed : s.keyAllowed = false) :
    s.rememberKey = .ok s := by
  rw [rememberKey, hallowed]
  rfl

theorem plainScalar_eq {s t : Scanner} {text : List Char} {broken : Bool} {k : Cursor}
    (hkey : s.rememberKey = .ok t)
    (hread : t.cursor.plainScalar t.inFlow t.textColumn = .ok (text, broken, k)) :
    s.plainScalar
      = .ok ({ t with keyAllowed := broken, cursor := k }.emit (.scalar text .plain)) := by
  rw [plainScalar, hkey]
  change (t.cursor.plainScalar t.inFlow t.textColumn >>= _) = _
  rw [hread]
  rfl

theorem startsPlain_of_isWordChar {s : Scanner} {c : Char} {rest : List Char} (hc : isWordChar c)
    (hrest : s.cursor.rest = c :: rest) : s.startsPlain := by
  have hnot := not_mem_indicators_of_isWordChar hc
  simp only [indicators, List.mem_cons, not_or] at hnot
  simp [startsPlain, Cursor.peek?, hrest, isBlank_of_isWordChar hc, isBreak_of_isWordChar hc,
    endsFlowWord, hnot]

theorem take_word {s : Scanner} {c : Char} {rest : List Char} (hc : isWordChar c)
    (hrest : s.cursor.rest = c :: rest) : s.take c = s.plainScalar := by
  have hpeek : s.cursor.peek? = some c := by
    rw [Cursor.peek?, hrest]
    rfl
  rw [take_of_not_mem_indicators hpeek (not_mem_indicators_of_isWordChar hc),
    if_pos (startsPlain_of_isWordChar hc hrest)]

theorem take_colon {s : Scanner} {rest : List Char} (hrest : s.cursor.rest = ':' :: ' ' :: rest) :
    s.take ':' = s.valueIndicator := by
  simp [take, Cursor.seesTriple, Cursor.sees, Cursor.seesGap, Cursor.peek?, hrest, isBlank]

variable {key value rest : List Char} {m : Mark} {indents : List Nat} (tokens : List Token)
  (count : Nat)

/-- The key of a line is taken for a scalar, and remembered as a candidate. -/
theorem scan_key (hkey : IsWord key) (hcolumn : m.column = 0) (hindents : ∀ i ∈ indents, i = 0)
    (fuel : Nat) :
    scan (fuel + 1) (atLine (key ++ ':' :: ' ' :: rest) m tokens count indents)
      = scan fuel
          { cursor := ⟨':' :: ' ' :: rest, m.after key⟩
            tokens := .scalar key .plain :: tokens
            count := count + 1
            indents := indents
            candidate := some ⟨count, m, indents.head? = some 0⟩
            keyAllowed := false } := by
  obtain ⟨c, key, rfl⟩ := List.exists_cons_of_ne_nil hkey.ne_nil
  have hc : isWordChar c := hkey.chars c List.mem_cons_self
  have hready : (atLine (c :: key ++ ':' :: ' ' :: rest) m tokens count indents).ready
      = .ok (atLine (c :: key ++ ':' :: ' ' :: rest) m tokens count indents) :=
    ready_eq (Cursor.toToken_of_isWordChar hc _ _ _ _) (by simp [atLine]) hindents
  refine scan_of_take hready rfl ?_ fuel
  rw [take_word hc rfl]
  refine Eq.trans (plainScalar_eq (rememberKey_of_allowed rfl rfl)
    (Cursor.plain_before_colon hkey.chars _ _ _)) ?_
  simp [atLine, emit, inFlow, column, hcolumn]

/-- The colon after a candidate makes it a key, of a mapping that it opens if none is open. -/
theorem scan_colon (hkey : IsWord key) (hshort : key.length ≤ 1024) (hcolumn : m.column = 0)
    (hindents : indents = [] ∨ indents = [0]) (required : Bool) (fuel : Nat) :
    scan (fuel + 1)
        { cursor := ⟨':' :: ' ' :: rest, m.after key⟩
          tokens := .scalar key .plain :: tokens
          count := count + 1
          indents := indents
          candidate := some ⟨count, m, required⟩
          keyAllowed := false }
      = scan fuel
          { cursor := ⟨' ' :: rest, (m.after key).right ':'⟩
            tokens := .value :: .scalar key .plain :: .key ::
              (if indents = [] then .blockMappingStart :: tokens else tokens)
            count := if indents = [] then count + 4 else count + 3
            indents := [0]
            keyAllowed := false } := by
  refine scan_of_take (ready_eq (k := ⟨':' :: ' ' :: rest, m.after key⟩) ?_ ?_ ?_) rfl ?_ fuel
  · simp [Cursor.toToken, isBreak]
  · intro c hc
    cases hc
    simp [Candidate.lapsed, Mark.after_word hkey.chars, hshort]
  · rcases hindents with rfl | rfl <;> simp
  · rw [take_colon rfl, valueIndicator]
    rcases hindents with rfl | rfl
    · have htwo : count + 1 + 1 - count = 2 := by omega
      simp [insert, openBlock, emit, skip, Cursor.skip, hcolumn, inFlow, Mark.after, htwo]
    · simp [insert, openBlock, emit, skip, Cursor.skip, hcolumn, inFlow, Mark.after]

/-- The value of a line is taken for a scalar, up to the next line. -/
theorem scan_value (hvalue : IsWord value) (hrest : StartsLine rest) (fuel : Nat) :
    scan (fuel + 1)
        { cursor := ⟨' ' :: (value ++ '\n' :: rest), m⟩
          tokens := tokens
          count := count
          indents := [0]
          keyAllowed := false }
      = scan fuel
          (atLine rest (((m.right ' ').after value).nextLine 1) (.scalar value .plain :: tokens)
            (count + 1) [0]) := by
  obtain ⟨c, value, rfl⟩ := List.exists_cons_of_ne_nil hvalue.ne_nil
  have hc : isWordChar c := hvalue.chars c List.mem_cons_self
  refine scan_of_take (ready_eq (k := ⟨c :: value ++ '\n' :: rest, m.right ' '⟩) ?_ ?_ ?_) rfl ?_
    fuel
  · simp [Cursor.toToken, isBreak, Cursor.toToken_of_isWordChar hc]
  · simp
  · simp
  · rw [take_word hc rfl]
    refine Eq.trans (plainScalar_eq (rememberKey_of_not_allowed rfl)
      (Cursor.plain_before_line hvalue.chars (Nat.zero_lt_one) hrest _)) ?_
    rfl

/-- A line leaves behind the scanner at the next line, with the tokens of the pair, and a mapping
opened before them if none was open. -/
theorem scan_line (hkey : IsWord key) (hshort : key.length ≤ 1024) (hvalue : IsWord value)
    (hrest : StartsLine rest) (hcolumn : m.column = 0) (hindents : indents = [] ∨ indents = [0])
    (fuel : Nat) : ∃ m' count', m'.column = 0 ∧
    scan (fuel + 3) (atLine (key ++ ':' :: ' ' :: (value ++ '\n' :: rest)) m tokens count indents)
      = scan fuel
          (atLine rest m'
            (.scalar value .plain :: .value :: .scalar key .plain :: .key ::
              (if indents = [] then .blockMappingStart :: tokens else tokens))
            count' [0]) := by
  have hzero : ∀ i ∈ indents, i = 0 := by rcases hindents with rfl | rfl <;> simp
  have hscan := (scan_key tokens count hkey hcolumn hzero (fuel + 2)).trans
    ((scan_colon tokens count hkey hshort hcolumn hindents _ (fuel + 1)).trans
      (scan_value _ _ hvalue hrest fuel))
  exact ⟨_, _, rfl, hscan⟩

end Scanner

/-! ## Pairs -/

/-- A key and its value on a line of their own. -/
structure Pair where
  key : List Char
  value : List Char

namespace Pair

/-- The key and the value are words, and the key is short enough to be found. -/
structure Plain (p : Pair) : Prop where
  key : IsWord p.key
  short : p.key.length ≤ 1024
  value : IsWord p.value

/-- The line of a pair. -/
def line (p : Pair) : List Char := p.key ++ ':' :: ' ' :: (p.value ++ ['\n'])

/-- The tokens of a pair. -/
def tokens (p : Pair) : List Token :=
  [.key, .scalar p.key .plain, .value, .scalar p.value .plain]

/-- The content of a pair. -/
def content (p : Pair) : List Content :=
  [.scalar { text := p.key }, .scalar { text := p.value }]

/-- The lines of pairs. -/
def lines (pairs : List Pair) : List Char := pairs.flatMap line

theorem lines_cons (p : Pair) (pairs : List Pair) :
    lines (p :: pairs) = p.key ++ ':' :: ' ' :: (p.value ++ '\n' :: lines pairs) := by
  simp [lines, line]

theorem startsLine_lines {pairs : List Pair} (h : ∀ p ∈ pairs, p.Plain) :
    StartsLine (lines pairs) := by
  cases pairs with
  | nil => simp [StartsLine, lines]
  | cons p pairs =>
    obtain ⟨hkey, -, -⟩ := h p List.mem_cons_self
    obtain ⟨c, key, heq⟩ := List.exists_cons_of_ne_nil hkey.ne_nil
    have hc : isWordChar c := hkey.chars c (heq ▸ List.mem_cons_self)
    simpa [StartsLine, lines_cons, heq] using hc

theorem isAllowed_of_mem_lines {pairs : List Pair} (h : ∀ p ∈ pairs, p.Plain) :
    ∀ c ∈ lines pairs, isAllowed c := by
  intro c hc
  obtain ⟨p, hp, hc⟩ := List.mem_flatMap.1 hc
  simp only [line, List.mem_append, List.mem_cons, List.not_mem_nil, or_false] at hc
  rcases hc with hkey | rfl | rfl | hvalue | rfl
  · exact isAllowed_of_isWordChar ((h p hp).key.chars c hkey)
  · rfl
  · rfl
  · exact isAllowed_of_isWordChar ((h p hp).value.chars c hvalue)
  · rfl

theorem length_le_length_lines (pairs : List Pair) : 3 * pairs.length ≤ (lines pairs).length := by
  induction pairs with
  | nil => exact Nat.zero_le _
  | cons p pairs ih =>
    rw [lines_cons]
    simp only [List.length_append, List.length_cons]
    omega

/-- The scanner inside a mapping in column zero reads pairs up to the end of the document. -/
theorem scan_lines {pairs : List Pair} (h : ∀ p ∈ pairs, p.Plain) {m : Mark}
    (hcolumn : m.column = 0) (tokens : List Token) (count fuel : Nat) :
    Scanner.scan (3 * pairs.length + fuel + 1) (.atLine (lines pairs) m tokens count [0])
      = .ok (tokens.reverse ++ (pairs.flatMap Pair.tokens ++ [.blockEnd])) := by
  induction pairs generalizing m tokens count with
  | nil =>
    have hready : (Scanner.atLine (lines []) m tokens count [0]).ready
        = .ok (Scanner.atLine (lines []) m tokens count [0]) :=
      Scanner.ready_eq rfl (by simp [Scanner.atLine]) (by simp [Scanner.atLine])
    rw [Scanner.scan_of_end hready rfl]
    exact congrArg Except.ok List.reverse_cons
  | cons p pairs ih =>
    obtain ⟨hkey, hshort, hvalue⟩ := h p List.mem_cons_self
    have hpairs : ∀ q ∈ pairs, q.Plain := fun q hq => h q (List.mem_cons_of_mem p hq)
    obtain ⟨m', count', hcolumn', hscan⟩ := Scanner.scan_line tokens count hkey hshort hvalue
      (startsLine_lines hpairs) hcolumn (.inr rfl) (3 * pairs.length + fuel + 1)
    have hlength : 3 * (pairs.length + 1) + fuel + 1 = 3 * pairs.length + fuel + 1 + 3 := by omega
    rw [lines_cons, List.length_cons, hlength, hscan, ih hpairs hcolumn']
    simp [Pair.tokens]

/-- The tokens of lines with pairs. -/
theorem tokens_lines {pairs : List Pair} (h : ∀ p ∈ pairs, p.Plain) (hne : pairs ≠ []) :
    Token.scan (lines pairs)
      = .ok (.blockMappingStart :: (pairs.flatMap Pair.tokens ++ [.blockEnd])) := by
  obtain ⟨p, pairs, rfl⟩ := List.exists_cons_of_ne_nil hne
  obtain ⟨hkey, hshort, hvalue⟩ := h p List.mem_cons_self
  have hpairs : ∀ q ∈ pairs, q.Plain := fun q hq => h q (List.mem_cons_of_mem p hq)
  obtain ⟨fuel, hfuel⟩ := Nat.exists_eq_add_of_le (length_le_length_lines (p :: pairs))
  -- The first line opens the mapping, the others find it open.
  obtain ⟨m, count, hcolumn, hscan⟩ := Scanner.scan_line (m := {}) [] 0 hkey hshort hvalue
    (startsLine_lines hpairs) rfl (.inl rfl) (3 * pairs.length + fuel + 1)
  have hlength : 3 * (pairs.length + 1) + fuel + 1 = 3 * pairs.length + fuel + 1 + 3 := by omega
  rw [Token.scan, if_pos (List.all_eq_true.2 (isAllowed_of_mem_lines h)), hfuel, List.length_cons,
    hlength, lines_cons]
  refine hscan.trans ?_
  rw [scan_lines hpairs hcolumn]
  simp [Pair.tokens]

/-- The pieces of a pair. -/
def pieces (p : Pair) : List Piece :=
  [.scalar none { text := p.key }, .scalar none { text := p.value }]

end Pair

/-! ## The content of pairs -/

namespace Piece

theorem node_scalar (handles : Handles) (indentless : Bool) (fuel : Nat) (text : List Char)
    (rest : List Token) :
    node handles true indentless (fuel + 1) (.scalar text .plain :: rest)
      = .ok ([.scalar none { text }], rest) := rfl

theorem andThen_eq_ok {first : Parsed} {next : List Token → Parsed} {pieces more : List Piece}
    {rest rest' : List Token} (hfirst : first = .ok (pieces, rest))
    (hnext : next rest = .ok (more, rest')) :
    andThen first next = .ok (pieces ++ more, rest') := by
  rw [andThen, hfirst]
  change (next rest >>= _) = _
  rw [hnext]
  rfl

/-- The pieces of a block mapping of pairs, up to its end. -/
theorem blockMapping_pairs (handles : Handles) (pairs : List Pair) (rest : List Token)
    (fuel : Nat) :
    blockMapping handles (2 * pairs.length + fuel + 1)
        (pairs.flatMap Pair.tokens ++ .blockEnd :: rest)
      = .ok (pairs.flatMap Pair.pieces ++ [.mappingEnd], rest) := by
  induction pairs with
  | nil => rfl
  | cons p pairs ih =>
    have hvalue : blockMappingValue handles (2 * pairs.length + fuel + 2)
        (.value :: .scalar p.value .plain :: (pairs.flatMap Pair.tokens ++ .blockEnd :: rest))
        = .ok (.scalar none { text := p.value } :: (pairs.flatMap Pair.pieces ++ [.mappingEnd]),
            rest) :=
      andThen_eq_ok (node_scalar handles true _ p.value _) ih
    have hlength : 2 * (pairs.length + 1) + fuel + 1 = 2 * pairs.length + fuel + 2 + 1 := by omega
    rw [List.length_cons, hlength]
    have hkey := andThen_eq_ok (node_scalar handles true (2 * pairs.length + fuel + 1) p.key _)
      hvalue
    exact hkey

theorem length_tokens (pairs : List Pair) :
    (pairs.flatMap Pair.tokens).length = 4 * pairs.length := by
  induction pairs with
  | nil => rfl
  | cons p pairs ih =>
    rw [List.flatMap_cons, List.length_append, ih, List.length_cons, Nat.mul_add, Nat.add_comm]
    rfl

theorem node_blockMappingStart (handles : Handles) (fuel : Nat) (rest : List Token) :
    node handles true false (fuel + 1) (.blockMappingStart :: rest)
      = put (.mappingStart none) (blockMapping handles fuel rest) := rfl

/-- The pieces of a document of pairs. -/
theorem ofTokens?_pairs (pairs : List Pair) :
    ofTokens? (.blockMappingStart :: (pairs.flatMap Pair.tokens ++ [.blockEnd]))
      = .ok (.mappingStart none :: (pairs.flatMap Pair.pieces ++ [.mappingEnd])) := by
  have hfuel : 4 * ((pairs.flatMap Pair.tokens ++ [Token.blockEnd]).length + 3)
      = 2 * pairs.length + (14 * pairs.length + 14) + 1 + 1 := by
    rw [List.length_append, length_tokens, List.length_singleton]
    omega
  rw [ofTokens?, if_neg (by simp), content_of_isFrame_eq_false rfl, hfuel, node_blockMappingStart,
    blockMapping_pairs]
  rfl

end Piece

namespace Document

theorem ofPieces_scalar {anchors : Anchors} {position : Nat} {value : Scalar} {pieces : List Piece}
    {d : Document} (h : ofPieces anchors (position + 1) pieces = .ok d) :
    ofPieces anchors position (.scalar none value :: pieces)
      = .ok { d with content := .scalar value :: d.content } := by
  rw [ofPieces]
  change (ofPieces anchors (position + 1) pieces >>= _) = _
  rw [h]
  rfl

theorem ofPieces_pairs (pairs : List Pair) (position : Nat) :
    ofPieces {} position (pairs.flatMap Pair.pieces ++ [.mappingEnd])
      = .ok { content := pairs.flatMap Pair.content ++ [.mappingEnd] } := by
  induction pairs generalizing position with
  | nil => rfl
  | cons p pairs ih => exact ofPieces_scalar (ofPieces_scalar (ih (position + 1 + 1)))

/-- Lines with pairs make a mapping. -/
theorem parse_lines {pairs : List Pair} (h : ∀ p ∈ pairs, p.Plain) (hne : pairs ≠ []) :
    parse (Pair.lines pairs)
      = .ok { content := .mappingStart :: (pairs.flatMap Pair.content ++ [.mappingEnd]) } := by
  rw [parse, Pair.tokens_lines h hne]
  change (Piece.ofTokens? _ >>= _) = _
  rw [Piece.ofTokens?_pairs]
  change (ofPieces {} 1 _ >>= _) = _
  rw [ofPieces_pairs]
  rfl

end Document

end EventDispatch.Yaml
