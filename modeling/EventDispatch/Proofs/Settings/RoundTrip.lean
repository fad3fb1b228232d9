import EventDispatch.Proofs.Settings.Mapping
import EventDispatch.Settings.Load
import Mathlib.Data.List.Basic

/-!
# Settings and the texts that state them

A text that is read as a mapping is not white space alone, so it states the fields that its entries
set, and the defaults of the others (`parse_of_sets`); lines with a field each are such a text
(`parse_written`). The document of settings is one of them, which makes it state the settings that
it was made of, if their depth fits into 64 bits (`parse_document`). Every text that is accepted
gives settings of this kind (`validate_of_parse`), and only a depth of zero is refused.
-/

set_option autoImplicit false

namespace EventDispatch

open EventDispatch.Yaml

namespace Settings

/-! ## From the text to the settings -/

theorem not_mem_indicators_of_isBlank {c : Char} (h : Text.isBlank c) : c ∉ indicators := by
  intro hmem
  have hnone : indicators.all (fun x => !Text.isBlank x) := by decide
  have hnot := List.all_eq_true.1 hnone c hmem
  rw [h] at hnot
  cases hnot

/-- A text that is read as a mapping is not white space alone. -/
theorem not_all_isBlank {text : String} {d : Document} {content : List Content}
    (h : Document.parse text.toList = .ok d) (hd : d.content = .mappingStart :: content) :
    text.toList.all Text.isBlank = false := by
  rw [Bool.eq_false_iff]
  intro hblank
  have hflat := Document.parse_flat
    (fun c hc => not_mem_indicators_of_isBlank (List.all_eq_true.1 hblank c hc)) h
  rw [hd] at hflat
  rcases hflat with hnil | ⟨value, hvalue⟩
  · cases hnil
  · cases hvalue

theorem parse_of_ofDocument {text : String} {d : Document} {s : Settings}
    (hblank : text.toList.all Text.isBlank = false) (hd : Document.parse text.toList = .ok d)
    (hs : ofDocument d = .ok s) :
    parse text = if s.maxDepth = 0 then .error (.invalid .zeroDepth) else .ok s := by
  have hbind : (Document.parse text.toList).bind ofDocument = .ok s := by
    rw [hd]
    exact hs
  simp only [parse, hblank, hbind, Bool.false_eq_true, if_false]
  by_cases hzero : s.maxDepth = 0
  · rw [if_pos hzero, validate, if_pos hzero]
  · rw [if_neg hzero, validate, if_neg hzero]

/-- A text of a mapping whose entries set fields states these fields and the defaults of the others;
a depth of zero is refused. -/
theorem parse_of_sets {text : String} {d : Document} {content : List Content}
    {row : List (Key × Scalar)} {f : Fields} (h : Document.parse text.toList = .ok d)
    (hd : d.content = .mappingStart :: (content ++ [.mappingEnd]))
    (hentries : Entries d row content) (hsets : Sets row f) :
    parse text = if f.settings.maxDepth = 0 then .error (.invalid .zeroDepth) else .ok f.settings :=
  parse_of_ofDocument (not_all_isBlank h hd) h (ofDocument_of_sets hd hentries hsets)

/-- Settings that are accepted pass the rules, and their depth fits into 64 bits. -/
theorem validate_of_parse {text : String} {s : Settings} (h : parse text = .ok s) :
    s.validate = .ok () ∧ s.maxDepth < UInt64.size := by
  rw [parse] at h
  split at h
  · cases h
    exact ⟨rfl, by decide⟩
  · split at h
    · cases h
    · rename_i settings hs
      split at h
      · cases h
      · rename_i hvalid
        cases h
        obtain ⟨d, -, hd⟩ := exists_of_bind_eq_ok hs
        exact ⟨hvalid, maxDepth_lt_of_ofDocument hd⟩

/-! ## Lines of settings -/

/-- The name of a field. -/
def Key.name : Key → String
  | .maxDepth => "max_hierarchy_depth"
  | .containPanics => "catch_panics"

/-- A text that gives fields the values of a row, one line each. -/
def written : List (Key × String) → String
  | [] => ""
  | (key, value) :: row => key.name ++ ": " ++ value ++ "\n" ++ written row

/-- The pairs of the lines. -/
def pairs (row : List (Key × String)) : List Pair :=
  row.map fun entry => ⟨entry.1.name.toList, entry.2.toList⟩

/-- What the lines give for fields. -/
def scalars (row : List (Key × String)) : List (Key × Scalar) :=
  row.map fun entry => (entry.1, { text := entry.2.toList })

theorem toList_written (row : List (Key × String)) :
    (written row).toList = Pair.lines (pairs row) := by
  induction row with
  | nil => rfl
  | cons entry row ih =>
    simp [written, ih, pairs, Pair.lines_cons]

theorem plain_pairs {row : List (Key × String)} {f : Fields} (h : Sets (scalars row) f) :
    ∀ p ∈ pairs row, p.Plain := by
  induction row generalizing f with
  | nil => simp [pairs]
  | cons entry row ih =>
    obtain ⟨key, value⟩ := entry
    have hname : IsWord key.name.toList ∧ key.name.toList.length ≤ 1024 := by
      cases key <;> exact ⟨isWord_of_all (by decide) (by decide), by decide⟩
    intro p hp
    rcases List.mem_cons.1 hp with rfl | hold
    · refine ⟨hname.1, hname.2, ?_⟩
      cases h with
      | maxDepth hvalue hnew hrow => exact isWord_of_wholeNumber? (scalarNumber?_eq_some hvalue)
      | containPanics hvalue hnew hrow => exact isWord_of_truthValue? (scalarTruth?_eq_some hvalue)
    · cases h with
      | maxDepth hvalue hnew hrow => exact ih hrow p hold
      | containPanics hvalue hnew hrow => exact ih hrow p hold

theorem entries_pairs (row : List (Key × String)) (d : Document) :
    Entries d (scalars row) ((pairs row).flatMap Pair.content) := by
  induction row with
  | nil => exact .nil
  | cons entry row ih =>
    obtain ⟨key, value⟩ := entry
    have hkey : Key.ofName? key.name.toList = some key := by cases key <;> rfl
    exact .field rfl hkey rfl ih

theorem document_eq_written (s : Settings) :
    s.document = written
      [(.maxDepth, toString s.maxDepth), (.containPanics, Text.bool s.containPanics)] := by
  have hdepth : "max_hierarchy_depth: " = "max_hierarchy_depth" ++ ": " := by decide
  have hpanics : "catch_panics: " = "catch_panics" ++ ": " := by decide
  unfold document
  simp only [hdepth, hpanics, written, Key.name, String.append_empty, String.append_assoc]

/-- Lines that set fields state these fields and the defaults of the others; a depth of zero is
refused. -/
theorem parse_written {row : List (Key × String)} {f : Fields} (h : Sets (scalars row) f) :
    parse (written row)
      = if f.settings.maxDepth = 0 then .error (.invalid .zeroDepth) else .ok f.settings := by
  by_cases hne : pairs row = []
  · have hrow : row = [] := by simpa [pairs] using hne
    subst hrow
    cases h
    rfl
  · have hparse := Document.parse_lines (plain_pairs h) hne
    rw [← toList_written] at hparse
    exact parse_of_sets hparse rfl (entries_pairs row _) h

/-- The document of settings sets both fields. -/
theorem sets_document {s : Settings} (h : s.maxDepth < UInt64.size) :
    Sets (scalars [(.maxDepth, toString s.maxDepth), (.containPanics, Text.bool s.containPanics)])
      { maxDepth := some s.maxDepth, containPanics := some s.containPanics } := by
  have hdepth : scalarNumber? { text := (toString s.maxDepth).toList } = some s.maxDepth := by
    change wholeNumber? (Nat.repr s.maxDepth).toList = some s.maxDepth
    rw [Nat.toList_repr]
    exact wholeNumber?_toDigits h
  have hpanics : scalarTruth? { text := (Text.bool s.containPanics).toList }
      = some s.containPanics := by
    cases s.containPanics <;> rfl
  exact .maxDepth hdepth rfl (.containPanics hpanics rfl .nil)

theorem parse_document {s : Settings} (h : s.maxDepth < UInt64.size) :
    parse s.document = if s.maxDepth = 0 then .error (.invalid .zeroDepth) else .ok s := by
  rw [document_eq_written]
  exact parse_written (sets_document h)

/-! ## Written and read back -/

/-- Settings with a depth from one to the greatest of 64 bits are read back from their document, and
a depth of zero is refused there. Settings that a text is accepted as pass the rules, so that a
manager can be made with them, and are read back from their document, too. A text of a mapping that
sets some of the fields, in any order and among any other keys, to values other than a depth of zero
states these values and the defaults of the fields that it leaves out. So do lines with a field
each. -/
theorem read_back :
    (∀ s : Settings, 1 ≤ s.maxDepth → s.maxDepth < UInt64.size → parse s.document = .ok s) ∧
    (∀ s : Settings, s.maxDepth = 0 → parse s.document = .error (.invalid .zeroDepth)) ∧
    (∀ (text : String) (s : Settings), parse text = .ok s →
      1 ≤ s.maxDepth ∧ s.validate = .ok () ∧ parse s.document = .ok s) ∧
    (∀ (text : String) (d : Document) (content : List Content) (row : List (Key × Scalar))
      (f : Fields), Document.parse text.toList = .ok d →
      d.content = .mappingStart :: (content ++ [.mappingEnd]) → Entries d row content →
      Sets row f → f.maxDepth ≠ some 0 →
      parse text = .ok
        { maxDepth := f.maxDepth.getD 32, containPanics := f.containPanics.getD true }) ∧
    (∀ (row : List (Key × String)) (f : Fields), Sets (scalars row) f → f.maxDepth ≠ some 0 →
      parse (written row) = .ok
        { maxDepth := f.maxDepth.getD 32, containPanics := f.containPanics.getD true }) := by
  refine ⟨?_, ?_, ?_, ?_, ?_⟩
  · intro s hpos hlt
    rw [parse_document hlt, if_neg (Nat.ne_of_gt hpos)]
  · intro s hzero
    have hlt : s.maxDepth < UInt64.size := hzero ▸ (by decide : 0 < UInt64.size)
    rw [parse_document hlt, if_pos hzero]
  · intro text s h
    obtain ⟨hvalid, hlt⟩ := validate_of_parse h
    have hpos := validate_eq_ok_iff.1 hvalid
    refine ⟨hpos, hvalid, ?_⟩
    rw [parse_document hlt, if_neg (Nat.ne_of_gt hpos)]
  · intro text d content row f hparse hd hentries hsets hdepth
    rw [parse_of_sets hparse hd hentries hsets, if_neg (mt Fields.maxDepth_settings_eq_zero hdepth)]
    rfl
  · intro row f hsets hdepth
    rw [parse_written hsets, if_neg (mt Fields.maxDepth_settings_eq_zero hdepth)]
    rfl

/-- A document in which a field stands behind another key. -/
def stray : Document where
  content :=
    [.mappingStart, .scalar { text := "limits".toList }, .sequenceStart,
      .scalar { text := "8".toList }, .mappingStart, .scalar { text := "max".toList },
      .scalar { text := "9".toList }, .mappingEnd, .sequenceEnd,
      .scalar { text := "catch_panics".toList }, .scalar { text := "false".toList }, .mappingEnd]

theorem parse_stray :
    Document.parse "limits:\n  - 8\n  - max: 9\ncatch_panics: false\n".toList = .ok stray := by
  decide +kernel

theorem entries_stray :
    Entries stray [(.containPanics, { text := "false".toList })]
      [.scalar { text := "limits".toList }, .sequenceStart,
        .scalar { text := "8".toList }, .mappingStart, .scalar { text := "max".toList },
        .scalar { text := "9".toList }, .mappingEnd, .sequenceEnd,
        .scalar { text := "catch_panics".toList }, .scalar { text := "false".toList }] := by
  have hinner : Nodes 2 [.scalar { text := "8".toList }, .mappingStart,
      .scalar { text := "max".toList }, .scalar { text := "9".toList }, .mappingEnd] :=
    .scalar _ (.collection .mapping (.scalar _ (.scalar _ .nil)) .nil)
  refine .other rfl (by decide) (.collection .sequence hinner .nil) ?_
  exact .field rfl (by decide) rfl .nil

theorem extreme_and_foreign_texts_read_back :
    parse (document ⟨UInt64.size - 1, false⟩) = .ok ⟨UInt64.size - 1, false⟩ ∧
    parse (document ⟨0, true⟩) = .error (.invalid .zeroDepth) ∧
    (1 ≤ 32 ∧ validate ⟨32, false⟩ = .ok () ∧ parse (document ⟨32, false⟩) = .ok ⟨32, false⟩) ∧
    parse "limits:\n  - 8\n  - max: 9\ncatch_panics: false\n" = .ok ⟨32, false⟩ ∧
    parse (written [(.containPanics, "False"), (.maxDepth, "0x40")]) = .ok ⟨64, false⟩ := by
  obtain ⟨hread, hzero, haccepted, hmapping, hlines⟩ := read_back
  have hstray : parse "limits:\n  - 8\n  - max: 9\ncatch_panics: false\n" = .ok ⟨32, false⟩ :=
    hmapping _ _ _ _ _ parse_stray rfl entries_stray (.containPanics (by decide) rfl .nil)
      (by decide)
  have hsets : Sets (scalars [(.containPanics, "False"), (.maxDepth, "0x40")])
      { maxDepth := some 64, containPanics := some false } :=
    .containPanics (f := { maxDepth := some 64 }) (by decide) rfl
      (.maxDepth (f := {}) (by decide) rfl .nil)
  exact ⟨hread ⟨UInt64.size - 1, false⟩ (by decide) (by decide), hzero ⟨0, true⟩ rfl,
    haccepted _ _ hstray, hstray, hlines _ _ hsets (by decide)⟩

end Settings

end EventDispatch
