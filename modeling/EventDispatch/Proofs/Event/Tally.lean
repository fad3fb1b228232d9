import EventDispatch.Proofs.Event.Chain
import EventDispatch.Settings

/-!
# Counting in a word

The types of a chain are counted in a word of 64 bits, and the number is raised before it is
compared with the bound. The greatest word has no successor, so a count that is about to raise it is
broken off (`Hierarchy.count_word_eq_overflow_iff`). Among the bounds of 64 bits this happens at the
greatest one only, and there on every chain that is longer than the bound. Under all other bounds,
and on all shorter chains, words are as good as any numbers. A word that is wrapped around never
exceeds the greatest bound, so a count with such words never ends on a cycle there.
-/

set_option autoImplicit false

namespace EventDispatch

namespace Counter

/-- A counter of 64 bits that starts again from zero after the greatest number. -/
def wrapping : Counter := ⟨fun n => some (UInt64.ofNat n + 1).toNat⟩

theorem raise?_wrapping (n : Nat) : wrapping.raise? n = some ((n + 1) % UInt64.size) := by
  show some (UInt64.ofNat n + 1).toNat = _
  rw [UInt64.toNat_add, UInt64.toNat_ofNat', UInt64.toNat_one, Nat.mod_add_mod]

/-- A word that has a successor is raised to it either way. -/
theorem raise?_wrapping_of_word {n m : Nat} (hraise : word.raise? n = some m) :
    wrapping.raise? n = some m := by
  obtain ⟨hfits, hm⟩ := Option.ite_none_right_eq_some.1 hraise
  rw [raise?_wrapping, Nat.mod_eq_of_lt hfits, hm]

end Counter

namespace Hierarchy

variable {h : Hierarchy} {t : EventType} {limit : Nat}

/-- A count in words is broken off exactly if neither the bound nor the end of the chain comes
before the greatest word. -/
theorem count_word_eq_overflow_iff :
    h.count .word limit t = .overflow ↔
      UInt64.size - 1 ≤ limit ∧ ((UInt64.size - 1 : ℕ) : ℕ∞) < h.chainLength t := by
  rw [count_eq_overflow_iff Counter.word_holdsUpTo, Nat.cast_le]

/-- Among the bounds of 64 bits that leaves the greatest one. -/
theorem count_word_eq_overflow_iff_of_lt (hword : limit < UInt64.size) :
    h.count .word limit t = .overflow ↔
      limit = UInt64.size - 1 ∧ (limit : ℕ∞) < h.chainLength t := by
  rw [count_word_eq_overflow_iff]
  constructor
  · rintro ⟨hle, hlong⟩
    obtain rfl : limit = UInt64.size - 1 := Nat.le_antisymm (Nat.le_sub_one_of_lt hword) hle
    exact ⟨rfl, hlong⟩
  · rintro ⟨rfl, hlong⟩
    exact ⟨Nat.le_refl _, hlong⟩

/-- Under a bound of 64 bits words give the lengths that any numbers give: where they overflow, the
chain is too long. -/
theorem length?_count_word (hword : limit < UInt64.size) :
    (h.count .word limit t).length? = h.chainLength? limit t := by
  by_cases hfits : h.count .word limit t = .overflow
  · have ht : t ≠ .any := by
      rintro rfl
      cases hfits
    have hlong := ((count_word_eq_overflow_iff_of_lt hword).1 hfits).2
    rw [hfits, (chainLength?_eq_none_iff ht).2 hlong]
    rfl
  · rw [chainLength?, count_exact_eq hfits]

/-- Words that are wrapped around count the same as others, unless these overflow. -/
theorem count_wrapping_eq (hfits : h.count .word limit t ≠ .overflow) :
    h.count .wrapping limit t = h.count .word limit t :=
  Tally.run_eq_of_raises Counter.raise?_wrapping_of_word hfits

/-- A counter that holds all numbers up to a greatest one does not go on counting for ever. -/
theorem isCounting_count {c : Counter} {greatest : ℕ∞} (hc : c.HoldsUpTo greatest) :
    (h.count c limit t).isCounting = false := by
  by_cases ht : t = .any
  · subst ht
    rfl
  · have hcounted : h.Counted greatest limit t (h.count c limit t) := counted_count hc ht
    generalize h.count c limit t = tally at hcounted
    cases hcounted <;> rfl

theorem exists_run_eq_overflow_iff :
    (∃ n, (h.tally t).run .word h limit n = .overflow) ↔ h.count .word limit t = .overflow := by
  constructor
  · rintro ⟨n, hn⟩
    rcases Nat.le_total n (limit + 1) with hle | hle
    · exact count_eq_of_run hn rfl hle
    · obtain ⟨k, rfl⟩ := Nat.exists_eq_add_of_le hle
      have hover : (h.count .word limit t).isCounting = false :=
        isCounting_count Counter.word_holdsUpTo
      rwa [Tally.run_add, ← count, Tally.run_of_isCounting_eq_false _ _ _ hover] at hn
  · intro hcount
    exact ⟨limit + 1, hcount⟩

theorem ne_any_of_chainLength_eq_top (hendless : h.chainLength t = ⊤) : t ≠ .any := by
  rintro rfl
  rw [chainLength_any] at hendless
  exact absurd hendless (ENat.natCast_ne_top 1)

/-- Under the greatest bound no word exceeds the bound, and a count with words that are wrapped
around goes on for as long as the chain does. -/
theorem run_wrapping (hendless : h.chainLength t = ⊤) (n : Nat) :
    (h.tally t).run .wrapping h (UInt64.size - 1) n
      = .counting (h.above? t (n + 1)) ((n + 1) % UInt64.size) := by
  induction n with
  | zero =>
    rw [Tally.run_zero, tally, if_neg (ne_any_of_chainLength_eq_top hendless), above?, above?,
      Option.bind_some]
    rfl
  | succ n ih =>
    obtain ⟨p, hp⟩ := Option.ne_none_iff_exists'.1 (chainLength_eq_top_iff.1 hendless (n + 1))
    have hlt : (n + 1 + 1) % UInt64.size < UInt64.size := Nat.mod_lt _ (by decide)
    rw [Tally.run_succ_eq_step, ih, hp, Tally.step, Counter.raise?_wrapping, Nat.mod_add_mod]
    dsimp only
    rw [if_neg (Nat.not_lt.2 (Nat.le_sub_one_of_lt hlt)), above?, hp, Option.bind_some]

/-- **Counting in a word.** Under a bound of 64 bits the count of a chain overflows exactly if the
bound is the greatest word and the chain is longer. Otherwise the count ends, with what the count in
natural numbers gives, whether or not words are wrapped around. So the count of a chain that never
ends is given up under every bound but the greatest, and under that one, if words are wrapped
around, it never ends. -/
theorem word_overflows_iff (h : Hierarchy) (t : EventType) {limit : Nat}
    (hword : limit < UInt64.size) :
    ((∃ n, (h.tally t).run .word h limit n = .overflow) ↔
      limit = UInt64.size - 1 ∧ (limit : ℕ∞) < h.chainLength t) ∧
    (¬ (limit = UInt64.size - 1 ∧ (limit : ℕ∞) < h.chainLength t) →
      ∀ c ∈ [Counter.word, .wrapping], (h.count c limit t).isCounting = false ∧
        h.count c limit t ≠ .overflow ∧
        (h.count c limit t).length? = h.chainLength? limit t) ∧
    (h.chainLength t = ⊤ →
      if limit = UInt64.size - 1 then
        ∀ n, ((h.tally t).run .wrapping h limit n).isCounting = true
      else ∀ c ∈ [Counter.word, .wrapping], h.count c limit t = .tooLong) := by
  have hsame (hfits : h.count .word limit t ≠ .overflow) :
      ∀ c ∈ [Counter.word, .wrapping], h.count c limit t = h.count .exact limit t := by
    rw [List.forall_mem_cons, List.forall_mem_singleton, count_wrapping_eq hfits,
      count_exact_eq hfits]
    exact ⟨rfl, rfl⟩
  rw [exists_run_eq_overflow_iff, ← count_word_eq_overflow_iff_of_lt hword]
  refine ⟨Iff.rfl, ?_, ?_⟩
  · intro hfits c hc
    rw [hsame hfits c hc]
    refine ⟨isCounting_count Counter.exact_holdsUpTo, ?_, rfl⟩
    rwa [count_exact_eq hfits]
  · intro hendless
    split
    · rename_i hgreatest
      intro n
      rw [hgreatest, run_wrapping hendless]
      rfl
    · rename_i hless
      have hfits : h.count .word limit t ≠ .overflow := by
        rw [ne_eq, count_word_eq_overflow_iff_of_lt hword]
        exact fun hbursts => hless hbursts.1
      have ht := ne_any_of_chainLength_eq_top hendless
      intro c hc
      rw [hsame hfits c hc, count_eq_tooLong_iff Counter.exact_holdsUpTo ht, hendless]
      exact ⟨ENat.natCast_lt_top _, ENat.natCast_lt_top _⟩

end Hierarchy

/-- A type that declares itself as its parent. -/
def vortex : Hierarchy := ⟨fun i => some (.custom i)⟩

theorem chainLength_vortex (i : Nat) : vortex.chainLength (.custom i) = ⊤ := by
  have habove (n : Nat) : vortex.above? (.custom i) n = some (.custom i) := by
    induction n with
    | zero => rfl
    | succ n ih => rw [Hierarchy.above?, ih]; rfl
  refine Hierarchy.chainLength_eq_top_iff.2 fun n => ?_
  rw [habove]
  exact Option.some_ne_none _

theorem count_word_vortex (i : Nat) :
    vortex.count .word (UInt64.size - 1) (.custom i) = .overflow := by
  rw [Hierarchy.count_word_eq_overflow_iff, chainLength_vortex]
  exact ⟨Nat.le_refl _, ENat.natCast_lt_top _⟩

/-- Under the bound three the count of such a type is given up. Under the greatest bound it
overflows and, wrapped around, never ends. -/
theorem vortex_overflows_under_greatest_bound :
    (∀ c ∈ [Counter.word, .wrapping], vortex.count c 3 (.custom 0) = .tooLong) ∧
      (vortex.count .word 3 (.custom 0)).length? = vortex.chainLength? 3 (.custom 0) ∧
      (∃ n, (vortex.tally (.custom 0)).run .word vortex (UInt64.size - 1) n = .overflow) ∧
      ∀ n, ((vortex.tally (.custom 0)).run .wrapping vortex (UInt64.size - 1) n).isCounting
        = true := by
  have hendless := chainLength_vortex 0
  obtain ⟨-, hcounted, hthree⟩ :=
    vortex.word_overflows_iff (.custom 0) (show 3 < UInt64.size by decide)
  obtain ⟨hgreatest, -, hnever⟩ :=
    vortex.word_overflows_iff (.custom 0) (show UInt64.size - 1 < UInt64.size by decide)
  have hless : (3 : Nat) ≠ UInt64.size - 1 := by decide
  refine ⟨?_, ?_, ?_, ?_⟩
  · have hends := hthree hendless
    rwa [if_neg hless] at hends
  · exact (hcounted (fun hbursts => hless hbursts.1) .word List.mem_cons_self).2.2
  · exact hgreatest.2 ⟨rfl, hendless ▸ ENat.natCast_lt_top _⟩
  · have hgoes := hnever hendless
    rwa [if_pos rfl] at hgoes

/-- A count in words may overflow under a bound that settings may have. -/
theorem not_always_within_word :
    ¬ ∀ (h : Hierarchy) (t : EventType) (s : Settings), s.validate = .ok () →
      s.maxDepth < UInt64.size → h.count .word s.maxDepth t ≠ .overflow := by
  intro hall
  exact hall vortex (.custom 0) { maxDepth := UInt64.size - 1 } (by decide) (by decide)
    (count_word_vortex 0)

end EventDispatch
