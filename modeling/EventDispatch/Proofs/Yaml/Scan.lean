import EventDispatch.Yaml.Document

/-!
# One token at a time

A step of the scanner moves to the next token, closes the block collections that end before it
(`Scanner.ready`), and takes it. Few characters may start something else than a plain scalar
(`indicators`). A text in which none of them stands has plain scalars for tokens
(`Token.scan_flat`), and so at most one scalar for content (`Document.parse_flat`).
-/

set_option autoImplicit false

namespace EventDispatch.Yaml

theorem exists_of_bind_eq_ok {ε α β : Type} {x : Except ε α} {f : α → Except ε β} {b : β}
    (h : x >>= f = .ok b) : ∃ a, x = .ok a ∧ f a = .ok b := by
  cases x with
  | error e => cases h
  | ok a => exact ⟨a, rfl, h⟩

/-! ## What is left of a text -/

namespace Cursor

/-- Moving to the next token takes characters off the front. -/
theorem toToken_suffix (flow allowed : Bool) (rest : List Char) (m : Mark) :
    (toToken flow allowed rest m).2.rest <:+ rest := by
  refine toToken.induct flow
    (fun allowed rest m => (toToken.inComment flow allowed rest m).2.rest <:+ rest)
    (fun allowed rest m => (toToken flow allowed rest m).2.rest <:+ rest)
    ?_ ?_ ?_ ?_ ?_ ?_ ?_ ?_ ?_ ?_ allowed rest m
  -- Inside a comment.
  · intro allowed m
    exact List.suffix_rfl
  · intro allowed rest m ih
    exact ih.trans (List.suffix_append ['\r', '\n'] rest)
  · intro allowed c rest m hcr hbreak ih
    rw [toToken.inComment, if_pos hbreak]
    · exact ih.trans (List.suffix_cons c rest)
    · exact hcr
  · intro allowed c rest m hcr hbreak ih
    rw [toToken.inComment, if_neg hbreak]
    · exact ih.trans (List.suffix_cons c rest)
    · exact hcr
  -- Outside of comments.
  · intro allowed m
    exact List.suffix_rfl
  · intro allowed rest m ih
    exact ih.trans (List.suffix_append ['\r', '\n'] rest)
  · intro allowed c rest m hcr hbreak ih
    rw [toToken, if_pos hbreak]
    · exact ih.trans (List.suffix_cons c rest)
    · exact hcr
  · intro allowed c rest m hcr hbreak hspace ih
    rw [toToken, if_neg hbreak, if_pos hspace]
    · exact ih.trans (List.suffix_cons c rest)
    · exact hcr
  · intro allowed rest m hcr hbreak hspace ih
    rw [toToken, if_neg hbreak, if_neg hspace, if_pos rfl]
    · exact ih.trans (List.suffix_cons '#' rest)
    · exact hcr
  · intro allowed c rest m hcr hbreak hspace hcomment
    have hstop : toToken flow allowed (c :: rest) m = (allowed, ⟨c :: rest, m⟩) := by
      rw [toToken, if_neg hbreak, if_neg hspace, if_neg hcomment]
      exact hcr
    exact ⟨[], congrArg (fun r => r.2.rest) hstop⟩

/-- So does reading a plain scalar. -/
theorem plain_suffix {flow : Bool} {indent : Nat} {gap : Option Gap} {rest : List Char} {m : Mark}
    {text : List Char} {broken : Bool} {k : Cursor}
    (h : plain flow indent gap rest m = .ok (text, broken, k)) : k.rest <:+ rest := by
  fun_induction plain flow indent gap rest m generalizing text broken k with
  | case1 gap m =>
    cases h
    exact List.suffix_rfl
  | case2 gap rest m ih => exact (ih h).trans (List.suffix_append ['\r', '\n'] rest)
  | case3 gap c rest m hcr hbreak ih => exact (ih h).trans (List.suffix_cons c rest)
  | case4 => cases h
  | case5 gap c rest m hcr hbreak hblank htab ih => exact (ih h).trans (List.suffix_cons c rest)
  | case6 => cases h
  | case7 =>
    cases h
    exact List.suffix_rfl
  | case8 gap c rest m =>
    rename_i ih
    obtain ⟨⟨more, broken, k⟩, hrest, hk⟩ := exists_of_bind_eq_ok h
    cases hk
    exact (ih hrest).trans (List.suffix_cons c rest)

end Cursor

/-! ## Steps of the scanner -/

/-- The characters that may start something else than a plain scalar. -/
def indicators : List Char :=
  ['%', '-', '.', '[', ']', '{', '}', ',', '?', ':', '*', '&', '!', '|', '>', '\'', '"', '#', '@',
   '\x60']

namespace Scanner

/-- The scanner at the next token, with the block collections closed that end before it. -/
def ready (s : Scanner) : Except Fault Scanner := do
  let (keyAllowed, cursor) := Cursor.toToken s.inFlow s.keyAllowed s.cursor.rest s.cursor.mark
  let s ← { s with keyAllowed, cursor }.dropStale
  .ok (s.closeBlocks (s.column < ·))

theorem scan_succ (fuel : Nat) (s : Scanner) :
    scan (fuel + 1) s = s.ready >>= fun s =>
      match s.cursor.peek? with
      | none => s.finish
      | some c => s.take c >>= scan fuel := by
  rw [scan, ready]
  obtain ⟨keyAllowed, cursor⟩ :=
    Cursor.toToken s.inFlow s.keyAllowed s.cursor.rest s.cursor.mark
  dsimp only
  cases ({ s with keyAllowed, cursor } : Scanner).dropStale <;> rfl

theorem scan_of_end {s t : Scanner} (hready : s.ready = .ok t) (hpeek : t.cursor.peek? = none)
    (fuel : Nat) : scan (fuel + 1) s = t.finish := by
  rw [scan_succ, hready]
  change (match t.cursor.peek? with | none => t.finish | some c => t.take c >>= scan fuel) = _
  rw [hpeek]

theorem scan_of_take {s t u : Scanner} {c : Char} (hready : s.ready = .ok t)
    (hpeek : t.cursor.peek? = some c) (htake : t.take c = .ok u) (fuel : Nat) :
    scan (fuel + 1) s = scan fuel u := by
  rw [scan_succ, hready]
  change (match t.cursor.peek? with | none => t.finish | some c => t.take c >>= scan fuel) = _
  rw [hpeek]
  change (t.take c >>= scan fuel) = _
  rw [htake]
  rfl

/-- A token that starts with no indicator is a plain scalar. -/
theorem take_of_not_mem_indicators {s : Scanner} {c : Char} (hc : s.cursor.peek? = some c)
    (h : c ∉ indicators) :
    s.take c = if s.startsPlain then s.plainScalar else .error .strayCharacter := by
  simp only [indicators, List.mem_cons, not_or] at h
  have hdash : s.cursor.seesTriple '-' = false := by simp [Cursor.seesTriple, Cursor.sees, hc, h]
  have hdot : s.cursor.seesTriple '.' = false := by simp [Cursor.seesTriple, Cursor.sees, hc, h]
  simp only [take, h, hdash, hdot, decide_false, Bool.and_false, Bool.false_and,
    Bool.false_eq_true, if_false]

/-! ## Texts without indicators -/

/-- A scanner before text without indicators that has found plain scalars only. -/
structure Flat (s : Scanner) : Prop where
  rest : ∀ c ∈ s.cursor.rest, c ∉ indicators
  tokens : ∀ t ∈ s.tokens, ∃ text, t = .scalar text .plain
  indents : s.indents = []

namespace Flat

variable {s t : Scanner}

theorem closeBlocks (h : s.Flat) (beyond : Nat → Bool) : (s.closeBlocks beyond).Flat := by
  rw [Scanner.closeBlocks]
  split
  · exact h
  · simp only [h.indents]
    exact ⟨h.rest, h.tokens, rfl⟩

theorem forgetKey (h : s.Flat) (ht : s.forgetKey = .ok t) : t.Flat := by
  rw [Scanner.forgetKey] at ht
  split at ht
  · cases ht
  · cases ht
    exact ⟨h.rest, h.tokens, h.indents⟩

theorem ready (h : s.Flat) (ht : s.ready = .ok t) : t.Flat := by
  have hsuffix := Cursor.toToken_suffix s.inFlow s.keyAllowed s.cursor.rest s.cursor.mark
  obtain ⟨u, hu, ht⟩ := exists_of_bind_eq_ok ht
  obtain ⟨candidate, -, hu⟩ := exists_of_bind_eq_ok hu
  have hflat : u.Flat := by
    cases hu
    exact ⟨fun c hc => h.rest c (hsuffix.subset hc), h.tokens, h.indents⟩
  cases ht
  exact hflat.closeBlocks _

theorem plainScalar (h : s.Flat) (ht : s.plainScalar = .ok t) : t.Flat := by
  obtain ⟨u, hu, ht⟩ := exists_of_bind_eq_ok ht
  have hflat : u.Flat := by
    rw [rememberKey] at hu
    split at hu
    · obtain ⟨v, hv, hu⟩ := exists_of_bind_eq_ok hu
      cases hu
      have hv := h.forgetKey hv
      exact ⟨hv.rest, hv.tokens, hv.indents⟩
    · cases hu
      exact h
  obtain ⟨⟨text, broken, k⟩, hread, ht⟩ := exists_of_bind_eq_ok ht
  cases ht
  have hsuffix := Cursor.plain_suffix hread
  refine ⟨fun c hc => hflat.rest c (hsuffix.subset hc), ?_, hflat.indents⟩
  intro x hx
  rcases List.mem_cons.1 hx with rfl | hold
  · exact ⟨text, rfl⟩
  · exact hflat.tokens x hold

theorem take (h : s.Flat) {c : Char} (hc : s.cursor.peek? = some c) (ht : s.take c = .ok t) :
    t.Flat := by
  have hmem : c ∈ s.cursor.rest := List.mem_of_getElem? hc
  rw [take_of_not_mem_indicators hc (h.rest c hmem)] at ht
  split at ht
  · exact h.plainScalar ht
  · cases ht

theorem finish (h : s.Flat) {tokens : List Token} (ht : s.finish = .ok tokens) :
    ∀ x ∈ tokens, ∃ text, x = .scalar text .plain := by
  obtain ⟨u, hu, ht⟩ := exists_of_bind_eq_ok ht
  cases ht
  intro x hx
  exact ((h.closeBlocks _).forgetKey hu).tokens x (List.mem_reverse.1 hx)

theorem scan {fuel : Nat} (h : s.Flat) {tokens : List Token}
    (ht : Scanner.scan fuel s = .ok tokens) :
    ∀ x ∈ tokens, ∃ text, x = .scalar text .plain := by
  induction fuel generalizing s with
  | zero =>
    cases ht
    intro x hx
    exact h.tokens x (List.mem_reverse.1 hx)
  | succ fuel ih =>
    rw [scan_succ] at ht
    obtain ⟨u, hu, ht⟩ := exists_of_bind_eq_ok ht
    have hflat := h.ready hu
    split at ht
    · exact hflat.finish ht
    · rename_i c hc
      obtain ⟨v, hv, ht⟩ := exists_of_bind_eq_ok ht
      exact ih (hflat.take hc hv) ht

end Flat

end Scanner

/-- A text without indicators has plain scalars for tokens. -/
theorem Token.scan_flat {text : List Char} (h : ∀ c ∈ text, c ∉ indicators) {tokens : List Token}
    (ht : Token.scan text = .ok tokens) : ∀ x ∈ tokens, ∃ word, x = .scalar word .plain := by
  rw [Token.scan] at ht
  split at ht
  · have hstart : Scanner.Flat { cursor := { rest := text } } := ⟨h, by simp, rfl⟩
    exact hstart.scan ht
  · cases ht

namespace Piece

/-- The content of a document that starts with neither a directive nor a line before documents is a
node. -/
theorem content_of_isFrame_eq_false {x : Token} (hx : isFrame x = false) (rest : List Token) :
    content (x :: rest)
      = node standardHandles true false (4 * (rest.length + 3)) (x :: rest) := by
  have hdirectives : directives false [] (x :: rest) = .ok ([], x :: rest) := by
    cases x <;> first | rfl | cases hx
  rw [content, hdirectives]
  cases x with
  | documentStart => cases hx
  | _ => exact if_pos rfl

end Piece

/-- A text without indicators has at most one scalar for content. -/
theorem Document.parse_flat {text : List Char} (h : ∀ c ∈ text, c ∉ indicators) {d : Document}
    (hd : Document.parse text = .ok d) : d.content = [] ∨ ∃ value, d.content = [.scalar value] := by
  obtain ⟨tokens, ht, hd⟩ := exists_of_bind_eq_ok hd
  obtain ⟨pieces, hp, hd⟩ := exists_of_bind_eq_ok hd
  cases tokens with
  | nil =>
    cases hp
    cases hd
    exact .inl rfl
  | cons x tokens =>
    obtain ⟨word, rfl⟩ := Token.scan_flat h ht x List.mem_cons_self
    obtain ⟨⟨pieces', rest⟩, hcontent, hp⟩ := exists_of_bind_eq_ok hp
    rw [Piece.content_of_isFrame_eq_false rfl] at hcontent
    cases hcontent
    dsimp only at hp
    split at hp
    · cases hp
      cases hd
      exact .inr ⟨_, rfl⟩
    · cases hp

end EventDispatch.Yaml
