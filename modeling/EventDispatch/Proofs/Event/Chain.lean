import EventDispatch.Proofs.Event.Agreement
import Mathlib.Data.ENat.Lattice

/-!
# Lengths of chains

The chain of a type has as many types as repeated declarations give, infinitely many on a cycle
(`Hierarchy.chainLength`). The bounded count gives the length of every chain that fits into the
bound (`Hierarchy.chainLength?_eq_some_iff`). The bounded walk gives the chain as far as there is
room, then the root, then nothing, and in the step that gives the root it marks itself as cut short
if the chain goes on beyond the bound (`Walk.after_of_le`, `Walk.next_after_eq`). The count is
therefore given up exactly if the walk is cut short (`Hierarchy.chainLength?_eq_none_iff_exceeds`).
-/

set_option autoImplicit false

namespace EventDispatch

namespace Hierarchy

variable {h : Hierarchy} {t : EventType} {limit : Nat}

/-! ## The length of a chain -/

open Classical in
/-- The number of types on the chain from `t` upwards, infinite if the chain never ends. -/
noncomputable def chainLength (h : Hierarchy) (t : EventType) : ℕ∞ :=
  if hend : ∃ n, h.above? t n = none then (Nat.find hend : ℕ) else ⊤

/-- A chain holds a type at every position below its length and at no other. -/
theorem isSome_above?_iff {n : Nat} :
    (h.above? t n).isSome = true ↔ (n : ℕ∞) < h.chainLength t := by
  classical
  unfold chainLength
  split
  · rename_i hend
    rw [Nat.cast_lt, Nat.lt_find_iff]
    constructor
    · intro hsome m hm hnone
      rw [above?_eq_none_of_le hnone hm] at hsome
      cases hsome
    · intro hbefore
      exact Option.isSome_iff_ne_none.2 (hbefore n (Nat.le_refl n))
  · rename_i hendless
    refine iff_of_true ?_ (ENat.natCast_lt_top n)
    exact Option.isSome_iff_ne_none.2 fun hnone => hendless ⟨n, hnone⟩

theorem above?_eq_none_iff {n : Nat} : h.above? t n = none ↔ h.chainLength t ≤ n := by
  rw [← Option.not_isSome_iff_eq_none, isSome_above?_iff, not_lt]

/-- A chain never ends exactly if it goes on from every position. -/
theorem chainLength_eq_top_iff : h.chainLength t = ⊤ ↔ ∀ n, h.above? t n ≠ none := by
  rw [ENat.eq_top_iff_forall_ge]
  constructor
  · intro hge n hnone
    have hlt := lt_of_lt_of_le (Nat.cast_lt.2 (Nat.lt_succ_self n)) (hge (n + 1))
    exact absurd (above?_eq_none_iff.1 hnone) (not_le.2 hlt)
  · intro hsome n
    exact le_of_lt (isSome_above?_iff.1 (Option.isSome_iff_ne_none.2 (hsome n)))

/-- A chain ends with the last type that it holds. -/
theorem chainLength_eq_succ_iff {n : Nat} :
    h.chainLength t = (n + 1 : ℕ) ↔ (h.above? t n).isSome = true ∧ h.above? t (n + 1) = none := by
  rw [isSome_above?_iff, above?_eq_none_iff]
  cases h.chainLength t with
  | top => exact iff_of_false (ENat.top_ne_natCast (n + 1)) fun hends => absurd hends.2 (by simp)
  | coe length =>
    simp only [Nat.cast_inj, Nat.cast_lt, Nat.cast_le]
    omega

end Hierarchy

/-! ## The bounded count -/

namespace Counter

/-- Every number below the greatest one that a counter holds is raised to the next, and the greatest
one is not. -/
structure HoldsUpTo (c : Counter) (greatest : ℕ∞) : Prop where
  raise?_of_lt : ∀ {n : ℕ}, (n : ℕ∞) < greatest → c.raise? n = some (n + 1)
  raise?_of_ge : ∀ {n : ℕ}, greatest ≤ n → c.raise? n = none
  one_lt : 1 < greatest

theorem exact_holdsUpTo : exact.HoldsUpTo ⊤ :=
  ⟨fun _ => rfl, fun hn => absurd (top_le_iff.1 hn) (ENat.natCast_ne_top _), ENat.one_lt_top⟩

theorem word_holdsUpTo : word.HoldsUpTo (UInt64.size - 1 : ℕ) := by
  refine ⟨?_, ?_, Nat.one_lt_cast.2 (by decide)⟩
  · intro n hn
    rw [Nat.cast_lt] at hn
    exact if_pos (Nat.lt_sub_iff_add_lt.1 hn)
  · intro n hn
    rw [Nat.cast_le] at hn
    exact if_neg (Nat.not_lt.2 (Nat.sub_le_iff_le_add.1 hn))

end Counter

namespace Hierarchy

variable {h : Hierarchy} {t : EventType} {limit : Nat}

/-- How the count of a chain ends, with a counter that holds numbers up to the greatest one: with
the length, if that is neither beyond the bound nor beyond the counter; otherwise at the bound or at
the end of the counter, whichever comes first. -/
inductive Counted (h : Hierarchy) (greatest : ℕ∞) (limit : ℕ) (t : EventType) : Tally → Prop
  | length {n : ℕ} (hn : h.chainLength t = n) (hlimit : n ≤ limit) (hfits : (n : ℕ∞) ≤ greatest) :
      Counted h greatest limit t (.length n)
  | tooLong (hlimit : (limit : ℕ∞) < greatest) (hlong : (limit : ℕ∞) < h.chainLength t) :
      Counted h greatest limit t .tooLong
  | overflow (hlimit : greatest ≤ limit) (hlong : greatest < h.chainLength t) :
      Counted h greatest limit t .overflow

/-- A chain holds at least the type that it starts from. -/
theorem chainLength_pos (h : Hierarchy) (t : EventType) : ((0 : ℕ) : ℕ∞) < h.chainLength t :=
  isSome_above?_iff.1 rfl

theorem chainLength_any (h : Hierarchy) : h.chainLength .any = (1 : ℕ) :=
  chainLength_eq_succ_iff.2 ⟨rfl, rfl⟩

theorem count_any (c : Counter) : h.count c limit .any = .length 0 := rfl

section Count

variable {c : Counter} {greatest : ℕ∞} (hc : c.HoldsUpTo greatest) (ht : t ≠ .any) {n : ℕ}

include hc ht

/-- As long as the bound and the counter leave room and the chain goes on, the count stands at the
next type of the chain. -/
theorem run_of_lt (hroom : n ≤ limit - 1) (hfits : (n : ℕ∞) < greatest)
    (hlength : (n : ℕ∞) < h.chainLength t) :
    (h.tally t).run c h limit n = .counting (h.above? t (n + 1)) (n + 1) := by
  induction n with
  | zero =>
    rw [Tally.run_zero, tally, if_neg ht, above?, above?, Option.bind_some]
  | succ n ih =>
    have hbefore : (n : ℕ∞) < (n + 1 : ℕ) := Nat.cast_lt.2 (Nat.lt_succ_self n)
    obtain ⟨p, hp⟩ := Option.isSome_iff_exists.1 (isSome_above?_iff.2 hlength)
    have hwithin : ¬ limit < n + 1 + 1 := by omega
    rw [Tally.run_succ_eq_step, ih (by omega) (hbefore.trans hfits) (hbefore.trans hlength), hp,
      Tally.step, hc.raise?_of_lt hfits]
    dsimp only
    rw [if_neg hwithin, above?, hp, Option.bind_some]

/-- A count that has gone up to the end of the chain ends with the length of the chain. -/
theorem run_of_chainLength_eq (hroom : n < limit) (hfits : (n : ℕ∞) < greatest)
    (hlength : h.chainLength t = (n + 1 : ℕ)) :
    (h.tally t).run c h limit (n + 1) = .length (n + 1) := by
  have hbefore : (n : ℕ∞) < h.chainLength t := hlength ▸ Nat.cast_lt.2 (Nat.lt_succ_self n)
  rw [Tally.run_succ_eq_step, run_of_lt hc ht (by omega) hfits hbefore,
    (chainLength_eq_succ_iff.1 hlength).2, Tally.step, if_neg (Nat.not_lt.2 hroom)]

/-- A count that has used up the room below the bound ends there if the chain goes on. -/
theorem run_of_bound (hlimit : limit = n + 1) (hfits : ((n + 1 : ℕ) : ℕ∞) < greatest)
    (hlong : ((n + 1 : ℕ) : ℕ∞) < h.chainLength t) :
    (h.tally t).run c h limit (n + 1) = .tooLong := by
  have hbefore : (n : ℕ∞) < (n + 1 : ℕ) := Nat.cast_lt.2 (Nat.lt_succ_self n)
  obtain ⟨p, hp⟩ := Option.isSome_iff_exists.1 (isSome_above?_iff.2 hlong)
  have hbeyond : limit < n + 1 + 1 := by omega
  rw [Tally.run_succ_eq_step, run_of_lt hc ht (by omega) (hbefore.trans hfits)
    (hbefore.trans hlong), hp, Tally.step, hc.raise?_of_lt hfits]
  exact if_pos hbeyond

/-- A count that has used up the counter is broken off if the chain goes on. -/
theorem run_of_greatest (hroom : n < limit) (hgreatest : greatest = (n + 1 : ℕ))
    (hlong : ((n + 1 : ℕ) : ℕ∞) < h.chainLength t) :
    (h.tally t).run c h limit (n + 1) = .overflow := by
  have hbefore : (n : ℕ∞) < (n + 1 : ℕ) := Nat.cast_lt.2 (Nat.lt_succ_self n)
  obtain ⟨p, hp⟩ := Option.isSome_iff_exists.1 (isSome_above?_iff.2 hlong)
  rw [Tally.run_succ_eq_step, run_of_lt hc ht (by omega) (hgreatest ▸ hbefore)
    (hbefore.trans hlong), hp, Tally.step, hc.raise?_of_ge (le_of_eq hgreatest)]

omit hc ht in
/-- A count that is over before the last round has the same result after it. -/
theorem count_eq_of_run {tally : Tally} (hrun : (h.tally t).run c h limit n = tally)
    (hended : tally.isCounting = false) (hn : n ≤ limit + 1) : h.count c limit t = tally := by
  obtain ⟨k, hk⟩ := Nat.exists_eq_add_of_le hn
  rw [count, hk, Tally.run_add, hrun, Tally.run_of_isCounting_eq_false c h limit hended]

/-- The count of a chain has ended or been broken off, where the length of the chain says. -/
theorem counted_count : h.Counted greatest limit t (h.count c limit t) := by
  cases limit with
  | zero =>
    have hone : c.raise? 1 = some 2 := hc.raise?_of_lt hc.one_lt
    rw [h.count_zero hone ht]
    exact .tooLong (lt_trans (by simp) hc.one_lt) (chainLength_pos h t)
  | succ l =>
    rcases lt_or_ge (min ((l + 1 : ℕ) : ℕ∞) greatest) (h.chainLength t) with hlong | hshort
    · rcases lt_or_ge ((l + 1 : ℕ) : ℕ∞) greatest with hfits | hfull
      · rw [min_eq_left hfits.le] at hlong
        have hrun := run_of_bound hc ht rfl hfits hlong
        rw [count_eq_of_run hrun rfl (Nat.le_succ _)]
        exact .tooLong hfits hlong
      · rw [min_eq_right hfull] at hlong
        obtain ⟨g, rfl⟩ :=
          ENat.ne_top_iff_exists.1 (ne_top_of_le_ne_top (ENat.natCast_ne_top _) hfull)
        have hpos : 0 < g := Nat.lt_trans Nat.one_pos (Nat.one_lt_cast.1 hc.one_lt)
        obtain ⟨n, rfl⟩ := Nat.exists_eq_add_one_of_ne_zero (Nat.ne_of_gt hpos)
        have hle := Nat.cast_le.1 hfull
        have hrun := run_of_greatest hc ht (Nat.lt_of_succ_le hle) rfl hlong
        rw [count_eq_of_run hrun rfl (Nat.le_succ_of_le hle)]
        exact .overflow hfull hlong
    · obtain ⟨hlimit, hfits⟩ := le_min_iff.1 hshort
      obtain ⟨k, hk⟩ :=
        ENat.ne_top_iff_exists.1 (ne_top_of_le_ne_top (ENat.natCast_ne_top _) hlimit)
      have hpos := chainLength_pos h t
      rw [← hk] at hlimit hfits hpos
      obtain ⟨n, rfl⟩ := Nat.exists_eq_add_one_of_ne_zero (Nat.ne_of_gt (Nat.cast_lt.1 hpos))
      have hle := Nat.cast_le.1 hlimit
      have hbefore : (n : ℕ∞) < greatest :=
        lt_of_lt_of_le (Nat.cast_lt.2 (Nat.lt_succ_self n)) hfits
      have hrun := run_of_chainLength_eq hc ht (Nat.lt_of_succ_le hle) hbefore hk.symm
      rw [count_eq_of_run hrun rfl (Nat.le_succ_of_le hle)]
      exact .length hk.symm hle hfits

theorem count_eq_length_iff :
    h.count c limit t = .length n ↔ n ≤ limit ∧ (n : ℕ∞) ≤ greatest ∧ h.chainLength t = n := by
  have hcounted : h.Counted greatest limit t (h.count c limit t) := counted_count hc ht
  constructor
  · intro hcount
    rw [hcount] at hcounted
    cases hcounted with
    | length hn hlimit hfits => exact ⟨hlimit, hfits, hn⟩
  · rintro ⟨hlimit, hfits, hn⟩
    generalize h.count c limit t = tally at hcounted
    cases hcounted with
    | length hm => rw [Nat.cast_inj.1 (hm.symm.trans hn)]
    | tooLong _ hlong =>
      rw [hn, Nat.cast_lt] at hlong
      omega
    | overflow _ hlong => exact absurd (hn ▸ hlong) (not_lt.2 hfits)

theorem count_eq_tooLong_iff :
    h.count c limit t = .tooLong ↔ (limit : ℕ∞) < greatest ∧ (limit : ℕ∞) < h.chainLength t := by
  have hcounted : h.Counted greatest limit t (h.count c limit t) := counted_count hc ht
  constructor
  · intro hcount
    rw [hcount] at hcounted
    cases hcounted with
    | tooLong hlimit hlong => exact ⟨hlimit, hlong⟩
  · rintro ⟨hlimit, hlong⟩
    generalize h.count c limit t = tally at hcounted
    cases hcounted with
    | length hn hle =>
      rw [hn, Nat.cast_lt] at hlong
      omega
    | tooLong => rfl
    | overflow hfull => exact absurd hlimit (not_lt.2 hfull)

end Count

/-- A count is broken off exactly if neither the bound nor the end of the chain comes before the
greatest number that the counter holds. -/
theorem count_eq_overflow_iff {c : Counter} {greatest : ℕ∞} (hc : c.HoldsUpTo greatest) :
    h.count c limit t = .overflow ↔ greatest ≤ limit ∧ greatest < h.chainLength t := by
  by_cases ht : t = .any
  · subst ht
    rw [count_any, chainLength_any]
    exact iff_of_false nofun fun hlong => absurd hlong.2 (not_lt.2 hc.one_lt.le)
  have hcounted : h.Counted greatest limit t (h.count c limit t) := counted_count hc ht
  constructor
  · intro hcount
    rw [hcount] at hcounted
    cases hcounted with
    | overflow hfull hlong => exact ⟨hfull, hlong⟩
  · rintro ⟨hfull, hlong⟩
    generalize h.count c limit t = tally at hcounted
    cases hcounted with
    | length hn hle hfits => exact absurd (hn ▸ hlong) (not_lt.2 hfits)
    | tooLong hlimit => exact absurd hlimit (not_lt.2 hfull)
    | overflow => rfl

/-- The bounded count gives the lengths of the chains that fit into the bound. -/
theorem chainLength?_eq_some_iff (ht : t ≠ .any) {n : Nat} :
    h.chainLength? limit t = some n ↔ n ≤ limit ∧ h.chainLength t = n := by
  rw [← and_congr_right_iff.2 fun _ => and_iff_right (le_top (a := (n : ℕ∞))),
    ← count_eq_length_iff Counter.exact_holdsUpTo ht, chainLength?]
  cases h.count .exact limit t <;> simp [Tally.length?]

/-- The bounded count is given up exactly if the chain is longer than the bound. -/
theorem chainLength?_eq_none_iff (ht : t ≠ .any) :
    h.chainLength? limit t = none ↔ (limit : ℕ∞) < h.chainLength t := by
  rw [← not_le, Option.eq_none_iff_forall_ne_some]
  constructor
  · intro hnone hle
    obtain ⟨n, hn⟩ := ENat.ne_top_iff_exists.1 (ne_top_of_le_ne_top (ENat.natCast_ne_top limit) hle)
    rw [← hn, Nat.cast_le] at hle
    exact hnone n ((chainLength?_eq_some_iff ht).2 ⟨hle, hn.symm⟩)
  · intro hlong n hn
    obtain ⟨hle, hlength⟩ := (chainLength?_eq_some_iff ht).1 hn
    exact hlong (hlength ▸ Nat.cast_le.2 hle)

/-! ## Where a walk stops going up -/

/-- A walk stops going up at the end of the chain or where the room ends, whichever comes first. -/
structure StopsAt (h : Hierarchy) (limit : Nat) (t : EventType) (k : Nat) : Prop where
  room : k ≤ limit
  goesOn : ∀ i < k, (h.above? t i).isSome = true
  ends : k < limit → h.above? t k = none

theorem stopsAt_of_eq_min {k : Nat} (hk : (k : ℕ∞) = min (h.chainLength t) limit) :
    h.StopsAt limit t k := by
  have hlimit : (k : ℕ∞) ≤ limit := hk ▸ min_le_right _ _
  have hlength : (k : ℕ∞) ≤ h.chainLength t := hk ▸ min_le_left _ _
  refine ⟨Nat.cast_le.1 hlimit, ?_, ?_⟩
  · intro i hi
    exact isSome_above?_iff.2 (lt_of_lt_of_le (Nat.cast_lt.2 hi) hlength)
  · intro hlt
    rw [above?_eq_none_iff]
    rcases min_choice (h.chainLength t) (limit : ℕ∞) with hmin | hmin
    · exact le_of_eq (hmin.symm.trans hk.symm)
    · rw [hmin, Nat.cast_inj] at hk
      exact absurd hk (Nat.ne_of_lt hlt)

/-- There the chain goes on exactly if it is longer than the bound. -/
theorem isSome_above?_min_iff {k : Nat} (hk : (k : ℕ∞) = min (h.chainLength t) limit) :
    (h.above? t k).isSome = true ↔ (limit : ℕ∞) < h.chainLength t := by
  rw [isSome_above?_iff, hk, min_lt_iff]
  simp

theorem exists_eq_min (h : Hierarchy) (limit : Nat) (t : EventType) :
    ∃ k : Nat, (k : ℕ∞) = min (h.chainLength t) limit :=
  ENat.ne_top_iff_exists.1 (ne_top_of_le_ne_top (ENat.natCast_ne_top limit) (min_le_right _ _))

end Hierarchy

/-! ## The bounded walk, call by call -/

namespace Walk

variable {h : Hierarchy} {t : EventType} {limit : Nat}

/-- The walk after it has been asked for `n` types. -/
def after (h : Hierarchy) : Nat → Walk → Walk
  | 0, w => w
  | n + 1, w => after h n (w.next h).2

/-- The answer of the walk when it is asked for a type after `n` others. -/
def answer? (h : Hierarchy) (n : Nat) (w : Walk) : Option EventType := ((w.after h n).next h).1

theorem after_succ (h : Hierarchy) (n : Nat) (w : Walk) :
    w.after h (n + 1) = ((w.after h n).next h).2 := by
  induction n generalizing w with
  | zero => rfl
  | succ n ih => exact ih (w.next h).2

/-- A walk that gives nothing stays as it is from then on. -/
theorem next_of_fst_eq_none {w : Walk} (hnone : (w.next h).1 = none) :
    (w.next h).2.next h = (none, (w.next h).2) := by
  obtain ⟨pending, remaining, rootPending, truncated⟩ := w
  cases rootPending with
  | true => cases pending <;> cases remaining <;> cases hnone
  | false =>
    cases pending with
    | none => rfl
    | some t =>
      cases remaining with
      | zero => rfl
      | succ left => cases hnone

/-- The walk that is left by taking all that it gives is the walk after as many calls as might be
needed. -/
theorem drain_snd (fuel : Nat) (w : Walk) : (w.drain h fuel).2 = w.after h fuel := by
  induction fuel generalizing w with
  | zero => rfl
  | succ fuel ih =>
    rw [drain, after]
    split
    · rename_i w' hnext
      have hstays : w'.next h = (none, w') := by
        have hsame := next_of_fst_eq_none (h := h) (w := w) (by rw [hnext])
        rwa [hnext] at hsame
      have hafter (n : Nat) : w'.after h n = w' := by
        induction n with
        | zero => rfl
        | succ n ihn => rw [after, hstays, ihn]
      rw [hnext]
      exact (hafter fuel).symm
    · rename_i t w' hnext
      rw [hnext]
      exact ih w'

section Chain

variable (ht : t ≠ .any) {k n : Nat} (hk : h.StopsAt limit t k)

include ht hk

/-- Up to where it stops going up, the walk stands at the next type of the chain. -/
theorem after_of_le (hn : n ≤ k) :
    (Hierarchy.walk limit t).after h n = ⟨h.above? t n, limit - n, true, false⟩ := by
  induction n with
  | zero =>
    rw [after, Hierarchy.walk, if_neg ht]
    rfl
  | succ n ih =>
    obtain ⟨c, hc⟩ := Option.isSome_iff_exists.1 (hk.goesOn n hn)
    have hleft : limit - n = limit - (n + 1) + 1 := by
      have hroom := hk.room
      omega
    rw [after_succ, ih (Nat.le_of_succ_le hn), hc, hleft, Hierarchy.above?, hc]
    rfl

/-- Where the chain or the room ends, the walk gives the root. It is cut short if the chain goes
on. -/
theorem next_after_eq : ((Hierarchy.walk limit t).after h k).next h
    = (some .any, ⟨none, limit - k, false, (h.above? t k).isSome⟩) := by
  rw [after_of_le ht hk (Nat.le_refl k)]
  cases habove : h.above? t k with
  | none => rfl
  | some c =>
    -- The chain goes on, so it is the room that has ended.
    have hfull : limit ≤ k := by
      apply Nat.le_of_not_lt
      intro hlt
      rw [hk.ends hlt] at habove
      cases habove
    rw [Nat.sub_eq_zero_of_le hfull]
    rfl

/-- After the root the walk stays as it is. -/
theorem after_of_lt (hn : k < n) :
    (Hierarchy.walk limit t).after h n = ⟨none, limit - k, false, (h.above? t k).isSome⟩ := by
  induction n with
  | zero => exact absurd hn (Nat.not_lt_zero k)
  | succ n ih =>
    rw [after_succ]
    rcases Nat.lt_or_eq_of_le (Nat.le_of_lt_succ hn) with hlt | rfl
    · rw [ih hlt]
      rfl
    · rw [next_after_eq ht hk]

/-- The walk gives the types of the chain one after the other. -/
theorem answer?_of_lt (hn : n < k) : (Hierarchy.walk limit t).answer? h n = h.above? t n := by
  obtain ⟨c, hc⟩ := Option.isSome_iff_exists.1 (hk.goesOn n hn)
  have hleft : limit - n = limit - (n + 1) + 1 := by
    have hroom := hk.room
    omega
  rw [answer?, after_of_le ht hk (Nat.le_of_lt hn), hc, hleft]
  rfl

theorem answer?_eq_root : (Hierarchy.walk limit t).answer? h k = some .any := by
  rw [answer?, next_after_eq ht hk]

theorem answer?_of_gt (hn : k < n) : (Hierarchy.walk limit t).answer? h n = none := by
  rw [answer?, after_of_lt ht hk hn]
  rfl

end Chain

/-- The walk of the root gives the root and nothing else, and is not cut short. -/
theorem after_any (n : Nat) :
    (Hierarchy.walk limit .any).after h (n + 1) = ⟨none, limit, false, false⟩ := by
  induction n with
  | zero => rfl
  | succ n ih =>
    rw [after_succ, ih]
    rfl

end Walk

namespace Hierarchy

variable {h : Hierarchy} {t : EventType} {limit : Nat}

/-- A walk is cut short exactly if the chain is longer than the bound. -/
theorem exceeds_iff (ht : t ≠ .any) :
    h.exceeds limit t = true ↔ (limit : ℕ∞) < h.chainLength t := by
  obtain ⟨k, hk⟩ := h.exists_eq_min limit t
  have hstops := stopsAt_of_eq_min hk
  have hpast : k < limit + 2 := Nat.lt_add_right 1 (Nat.lt_succ_of_le hstops.room)
  rw [exceeds, finishedWalk, Walk.drain_snd, Walk.after_of_lt ht hstops hpast]
  exact isSome_above?_min_iff hk

/-- The walk of the root is never cut short. -/
theorem exceeds_any : h.exceeds limit .any = false := by
  rw [exceeds, finishedWalk, Walk.drain_snd, Walk.after_any]

/-- The count is given up exactly if the walk up the chain is cut short. -/
theorem chainLength?_eq_none_iff_exceeds :
    h.chainLength? limit t = none ↔ h.exceeds limit t = true := by
  by_cases ht : t = .any
  · subst ht
    rw [exceeds_any]
    exact iff_of_false (Option.some_ne_none 0) Bool.false_ne_true
  · rw [chainLength?_eq_none_iff ht, exceeds_iff ht]

end Hierarchy

end EventDispatch
