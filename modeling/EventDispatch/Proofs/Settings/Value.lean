import EventDispatch.Proofs.Yaml.Lines
import EventDispatch.Settings.Document

/-!
# Values as they are written

A text of a whole number is a row of digits after at most a plus sign and a mark of the base
(`exists_digits`), and the number fits into 64 bits. So every text of a whole number is a word,
which a line of a document can hold, and so are the six texts of truth values. The decimal numeral
of a number that fits is read as this number (`wholeNumber?_toDigits`).
-/

set_option autoImplicit false

namespace EventDispatch.Settings

open EventDispatch.Yaml

/-! ## Digits -/

theorem digit?_eq_some {base : Nat} {c : Char} {n : Nat} (h : digit? base c = some n) :
    hexDigit? c = some n := (Option.filter_eq_some_iff.1 h).1

theorem digit?_ten {c : Char} (hc : c.isDigit) : digit? 10 c = some (c.toNat - '0'.toNat) := by
  have hlt : c.toNat - '0'.toNat < 10 := by
    simp only [Char.isDigit, Bool.and_eq_true, decide_eq_true_eq, UInt32.le_iff_toNat_le] at hc
    have hle : c.toNat ≤ 57 := hc.2
    have hzero : '0'.toNat = 48 := rfl
    omega
  rw [digit?, hexDigit?, if_pos hc, Option.filter_some, if_pos (by simpa using hlt)]

/-- The digits of a number are read as this number. -/
theorem foldlM_digits {digits : List Char} (h : ∀ c ∈ digits, c.isDigit) (init : Nat) :
    digits.foldlM (fun n c => (digit? 10 c).map (n * 10 + ·)) init
      = some (Nat.ofDigitChars 10 digits init) := by
  induction digits generalizing init with
  | nil => rfl
  | cons c digits ih =>
    rw [List.foldlM_cons, digit?_ten (h c List.mem_cons_self)]
    change digits.foldlM _ _ = _
    rw [ih (fun d hd => h d (List.mem_cons_of_mem c hd)), Nat.ofDigitChars_cons, Nat.mul_comm 10]

theorem hexDigit?_of_foldlM {base : Nat} {digits : List Char} {init n : Nat}
    (h : digits.foldlM (fun n c => (digit? base c).map (n * base + ·)) init = some n) :
    ∀ c ∈ digits, (hexDigit? c).isSome := by
  induction digits generalizing init with
  | nil => exact nofun
  | cons c digits ih =>
    rw [List.foldlM_cons] at h
    obtain ⟨m, hm, h⟩ := Option.bind_eq_some_iff.1 h
    obtain ⟨v, hv, -⟩ := Option.map_eq_some_iff.1 hm
    intro d hd
    rcases List.mem_cons.1 hd with rfl | hd
    · rw [digit?_eq_some hv]
      rfl
    · exact ih h d hd

theorem number?_eq_some {base : Nat} {digits : List Char} {n : Nat}
    (h : number? base digits = some n) :
    digits ≠ [] ∧ (∀ c ∈ digits, (hexDigit? c).isSome) ∧ n < UInt64.size := by
  rw [number?] at h
  split at h
  · cases h
  · rename_i hne
    obtain ⟨hfold, hlt⟩ := Option.filter_eq_some_iff.1 h
    exact ⟨by simpa using hne, hexDigit?_of_foldlM hfold, by simpa using hlt⟩

/-- After a plus sign a text of a whole number has a mark of its base, which may be empty, and
digits. -/
theorem exists_digits {text : List Char} {n : Nat} (h : wholeNumber? text = some n) :
    ∃ start base digits, withoutPlus text = start ++ digits ∧
      start ∈ ["".toList, "0x".toList, "0o".toList, "0b".toList] ∧
      number? base digits = some n := by
  rw [wholeNumber?] at h
  dsimp only at h
  split at h
  · rename_i m hbased
    cases h
    obtain ⟨⟨start, base⟩, hmem, hnumber⟩ := List.exists_of_findSome?_eq_some hbased
    dsimp only at hnumber
    rw [basedNumber?] at hnumber
    split at hnumber
    · rename_i hmark
      have hstart : start <+: withoutPlus text := List.isPrefixOf_iff_prefix.1 hmark
      refine ⟨start, base, _, ?_, ?_, hnumber⟩
      · exact (List.prefix_iff_eq_append.1 hstart).symm
      · have hstarts : ∀ entry ∈ [("0x".toList, 16), ("0o".toList, 8), ("0b".toList, 2)],
            entry.1 ∈ ["".toList, "0x".toList, "0o".toList, "0b".toList] := by decide
        exact hstarts (start, base) hmem
    · cases hnumber
  · split at h
    · cases h
    · exact ⟨[], 10, _, rfl, by simp, h⟩

/-! ## Texts of values -/

theorem isWordChar_of_hexDigit? {c : Char} (h : (hexDigit? c).isSome) : isWordChar c := by
  rw [hexDigit?] at h
  split at h
  · rename_i hdigit
    simp [isWordChar, hdigit]
  split at h
  · rename_i hrange
    rw [Bool.and_eq_true, decide_eq_true_eq, decide_eq_true_eq] at hrange
    have hz : c ≤ 'z' := Char.le_trans hrange.2 (by decide)
    simp [isWordChar, hrange.1, hz]
  split at h
  · rename_i hrange
    rw [Bool.and_eq_true, decide_eq_true_eq, decide_eq_true_eq] at hrange
    have hz : c ≤ 'Z' := Char.le_trans hrange.2 (by decide)
    simp [isWordChar, hrange.1, hz]
  · cases h

theorem isWord_of_withoutPlus {text : List Char} (h : IsWord (withoutPlus text)) : IsWord text := by
  unfold withoutPlus at h
  split at h
  · rename_i rest
    refine ⟨List.cons_ne_nil _ _, ?_⟩
    intro c hc
    rcases List.mem_cons.1 hc with rfl | hc
    · rfl
    · exact h.chars c hc
  · exact h

theorem isWord_of_wholeNumber? {text : List Char} {n : Nat} (h : wholeNumber? text = some n) :
    IsWord text := by
  obtain ⟨start, base, digits, heq, hstart, hnumber⟩ := exists_digits h
  obtain ⟨hne, hdigits, -⟩ := number?_eq_some hnumber
  apply isWord_of_withoutPlus
  rw [heq]
  refine ⟨by simp [hne], ?_⟩
  intro c hc
  rcases List.mem_append.1 hc with hmark | hdigit
  · have hmarks : ["".toList, "0x".toList, "0o".toList, "0b".toList].all (·.all isWordChar) := by
      decide
    exact List.all_eq_true.1 (List.all_eq_true.1 hmarks start hstart) c hmark
  · exact isWordChar_of_hexDigit? (hdigits c hdigit)

theorem isWord_of_truthValue? {text : List Char} {b : Bool} (h : truthValue? text = some b) :
    IsWord text := by
  have hwords : ∀ words ∈ [["true", "True", "TRUE"], ["false", "False", "FALSE"]],
      words.any (·.toList = text) → IsWord text := by
    intro words hmem hany
    obtain ⟨word, hword, heq⟩ := List.any_eq_true.1 hany
    obtain rfl := of_decide_eq_true heq
    have hall : [["true", "True", "TRUE"], ["false", "False", "FALSE"]].all
        (·.all fun word => !word.toList.isEmpty && word.toList.all isWordChar) := by decide
    have hboth := List.all_eq_true.1 (List.all_eq_true.1 hall words hmem) word hword
    rw [Bool.and_eq_true] at hboth
    exact isWord_of_all (by simpa using hboth.1) hboth.2
  rw [truthValue?] at h
  split at h
  · rename_i hany
    exact hwords _ (by simp) hany
  · split at h
    · rename_i hany
      exact hwords _ (by simp) hany
    · cases h

theorem wholeNumber?_lt {text : List Char} {n : Nat} (h : wholeNumber? text = some n) :
    n < UInt64.size := by
  obtain ⟨_, _, _, -, -, hnumber⟩ := exists_digits h
  exact (number?_eq_some hnumber).2.2

theorem scalarNumber?_eq_some {value : Scalar} {n : Nat} (h : scalarNumber? value = some n) :
    wholeNumber? value.text = some n := by
  rw [scalarNumber?] at h
  split at h
  · exact h
  · cases h

theorem scalarTruth?_eq_some {value : Scalar} {b : Bool} (h : scalarTruth? value = some b) :
    truthValue? value.text = some b := by
  rw [scalarTruth?] at h
  split at h
  · exact h
  · cases h

/-! ## Numerals -/

theorem isDigit_of_mem_toDigits {n : Nat} : ∀ c ∈ Nat.toDigits 10 n, c.isDigit :=
  fun _ hc => Nat.isDigit_of_mem_toDigits (by decide) (by decide) hc

theorem eq_nil_of_toDigits_eq_zero_cons {n : Nat} {rest : List Char}
    (h : Nat.toDigits 10 n = '0' :: rest) : rest = [] := by
  induction n using Nat.strongRecOn generalizing rest with
  | ind n ih =>
    by_cases hlt : n < 10
    · rw [Nat.toDigits_of_lt_base hlt] at h
      exact (List.cons.inj h).2.symm
    · rw [Nat.toDigits_of_base_le (by decide) (Nat.le_of_not_lt hlt)] at h
      -- The digits before the last one would have to be a single zero.
      cases hdigits : Nat.toDigits 10 (n / 10) with
      | nil => exact absurd hdigits Nat.toDigits_ne_nil
      | cons c more =>
        rw [hdigits, List.cons_append] at h
        obtain ⟨rfl, -⟩ := List.cons.inj h
        have hnil := ih (n / 10) (by omega) hdigits
        rw [hnil] at hdigits
        have hzero : Nat.ofDigitChars 10 (Nat.toDigits 10 (n / 10)) 0 = 0 := by rw [hdigits]; rfl
        rw [Nat.ofDigitChars_ten_toDigits] at hzero
        omega

/-- The decimal numeral of a number that fits into 64 bits is read as this number. -/
theorem wholeNumber?_toDigits {n : Nat} (hn : n < UInt64.size) :
    wholeNumber? (Nat.toDigits 10 n) = some n := by
  have hdigit := isDigit_of_mem_toDigits (n := n)
  have hnumber : number? 10 (Nat.toDigits 10 n) = some n := by
    rw [number?, if_neg (by simp [Nat.toDigits_ne_nil]), foldlM_digits hdigit,
      Nat.ofDigitChars_ten_toDigits, Option.filter_some, if_pos (by simpa using hn)]
  cases hdigits : Nat.toDigits 10 n with
  | nil => exact absurd hdigits Nat.toDigits_ne_nil
  | cons c rest =>
    rw [hdigits] at hdigit hnumber
    have hc : c.isDigit := hdigit c List.mem_cons_self
    have hplus : c ≠ '+' := by rintro rfl; cases hc
    have hminus : c ≠ '-' := by rintro rfl; cases hc
    have hbody : withoutPlus (c :: rest) = c :: rest := by
      unfold withoutPlus
      split
      · rename_i heq
        exact absurd (List.cons.inj heq).1 hplus
      · rfl
    have hbased : ∀ start ∈ ["0x".toList, "0o".toList, "0b".toList], ∀ base,
        basedNumber? start base (c :: rest) = none := by
      intro start hstart base
      have hmarks : ["0x".toList, "0o".toList, "0b".toList].all (!·.all Char.isDigit) := by decide
      have hmark := List.all_eq_true.1 hmarks start hstart
      rw [basedNumber?, if_neg]
      intro htext
      have hfront : start <+: c :: rest := List.isPrefixOf_iff_prefix.1 htext
      have hdigits : start.all Char.isDigit :=
        List.all_eq_true.2 fun d hd => hdigit d (hfront.subset hd)
      rw [hdigits] at hmark
      cases hmark
    have hsigned : signed (c :: rest) = false := by simp [signed, hplus, hminus]
    have hzero : zeroLed (c :: rest) = false := by
      rw [zeroLed, withoutSign, hsigned, if_neg Bool.false_ne_true]
      split
      · rename_i heq
        cases eq_nil_of_toDigits_eq_zero_cons (hdigits.trans heq)
      · rfl
    rw [wholeNumber?, hbody]
    simp [hbased, hsigned, hzero, hnumber]

end EventDispatch.Settings
