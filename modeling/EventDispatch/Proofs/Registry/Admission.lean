import Mathlib.Data.List.Nodup
import EventDispatch.Proofs.Event.Tally
import EventDispatch.Proofs.Registry.Member

/-!
# Which observers are admitted

The bindings of an observer type are accepted exactly if there are some, no two of them claim the
same phase and event type, and the chain of every bound type ends within the bound. The tables of
the member that is made then hold the handlers of their phases, each of them once. Otherwise the
first binding that breaks a rule decides, whatever is bound after it: the refusal names it, unless
the bound is the greatest word and the binding's chain is longer, where the count overflows and
there is no answer (`Binding.first_misfit_decides`).
-/

set_option autoImplicit false

namespace EventDispatch

/-! ## The rules, binding by binding -/

namespace Binding

variable (h : Hierarchy) (maxDepth : Nat)

/-- What a binding claims: its phase and its event type. -/
def claim (b : Binding) : Phase × EventType := (b.phase, b.eventType)

/-- Whether a binding breaks no rule after the bindings `earlier`: what it claims is free, and the
chain of its type ends within the bound. -/
def Fits (earlier : List Binding) (b : Binding) : Prop :=
  (∀ a ∈ earlier, a.claim ≠ b.claim) ∧ (h.chainLength? maxDepth b.eventType).isSome = true

/-- The rule that a binding breaks after the bindings `earlier`: exactly one of these claims the
same, or none does and the chain of its type does not end within the bound. -/
inductive Breaks (earlier : List Binding) (b : Binding) : Violation → Prop
  | duplicate (before after : List Binding) (a : Binding)
      (hearlier : earlier = before ++ a :: after)
      (hclaim : a.claim = b.claim) (honly : ∀ x ∈ before ++ after, x.claim ≠ b.claim) :
      Breaks earlier b (.duplicateHandler b.phase b.eventType a.handler)
  | unresolvable (hfree : ∀ x ∈ earlier, x.claim ≠ b.claim)
      (hchain : h.chainLength? maxDepth b.eventType = none) :
      Breaks earlier b (.unresolvableEventType b.eventType maxDepth)

/-- Whether a rule is broken by a chain that is too long under the greatest bound, where the count
of the chain overflows. -/
def Overflows (b : Binding) (v : Violation) : Prop :=
  maxDepth = UInt64.size - 1 ∧ v = .unresolvableEventType b.eventType maxDepth

instance (b : Binding) (v : Violation) : Decidable (Overflows maxDepth b v) :=
  inferInstanceAs (Decidable (_ ∧ _))

/-- The answer to a binding that breaks a rule: the refusal that names both, or none if the count of
its chain overflows. -/
def answer? (name : String) (b : Binding) (v : Violation) : Option (Except Refusal Unit) :=
  if Overflows maxDepth b v then none else some (.error (.invalidObserver name b.handler v))

theorem clashes_iff {a b : Binding} : a.clashes b = true ↔ a.claim = b.claim := by
  simp [clashes, claim]

theorem pairwise_clashes_iff {bindings : List Binding} :
    (bindings.Pairwise fun a b => a.clashes b = false) ↔ (bindings.map claim).Nodup := by
  simp only [List.Nodup, List.pairwise_map, ← Bool.not_eq_true, clashes_iff, ne_eq]

variable {h maxDepth} {earlier bindings : List Binding} {b : Binding}

/-- Under a bound of 64 bits a binding passes the rules exactly if it fits. -/
theorem verdict_word_eq_fits_iff (hword : maxDepth < UInt64.size) :
    b.verdict .word h maxDepth earlier = .fits ↔ Fits h maxDepth earlier b := by
  rw [verdict_eq_fits_iff, Hierarchy.length?_count_word hword, Fits]
  simp only [← Bool.not_eq_true, clashes_iff, ne_eq]

/-- A binding that does not fit breaks a rule, if those before it do not clash, and the verdict is
this rule unless the count of its chain overflows. -/
theorem exists_breaks_of_not_fits (hword : maxDepth < UInt64.size)
    (hearlier : (earlier.map claim).Nodup) (hmisfit : ¬ Fits h maxDepth earlier b) :
    ∃ v, Breaks h maxDepth earlier b v ∧ b.verdict .word h maxDepth earlier
      = if Overflows maxDepth b v then .undecided else .breaks v := by
  rw [verdict]
  cases hfind : earlier.find? (·.clashes b) with
  | some a =>
    obtain ⟨hclash, before, after, rfl, -⟩ := List.find?_eq_some_iff_append.1 hfind
    have hclaim := clashes_iff.1 hclash
    refine ⟨_, .duplicate before after a rfl hclaim ?_, ?_⟩
    · -- Another binding with the same claim would clash with `a`.
      rw [List.map_append, List.map_cons, List.nodup_middle, List.nodup_cons,
        ← List.map_append] at hearlier
      rintro x hx hsame
      exact hearlier.1 (List.mem_map.2 ⟨x, hx, hsame.trans hclaim.symm⟩)
    · rw [if_neg]
      exact fun hover => Violation.noConfusion hover.2
  | none =>
    have hfree : ∀ x ∈ earlier, x.claim ≠ b.claim := by
      intro x hx hclaim
      exact List.find?_eq_none.1 hfind x hx (clashes_iff.2 hclaim)
    have hchain : h.chainLength? maxDepth b.eventType = none := by
      rw [← Option.not_isSome_iff_eq_none]
      exact fun hsome => hmisfit ⟨hfree, hsome⟩
    refine ⟨_, .unresolvable hfree hchain, ?_⟩
    -- The count is given up below the greatest bound, and overflows there.
    have ht : b.eventType ≠ .any := by
      intro hany
      rw [hany] at hchain
      cases hchain
    have hlong := (Hierarchy.chainLength?_eq_none_iff ht).1 hchain
    by_cases hgreatest : maxDepth = UInt64.size - 1
    · rw [if_pos ⟨hgreatest, rfl⟩,
        (Hierarchy.count_word_eq_overflow_iff_of_lt hword).2 ⟨hgreatest, hlong⟩]
    · have hbelow : (maxDepth : ℕ∞) < (UInt64.size - 1 : ℕ) :=
        Nat.cast_lt.2 (Nat.lt_of_le_of_ne (Nat.le_sub_one_of_lt hword) hgreatest)
      rw [if_neg fun hover => hgreatest hover.1,
        (Hierarchy.count_eq_tooLong_iff Counter.word_holdsUpTo ht).2 ⟨hbelow, hlong⟩]

/-- There is no answer to a single binding if the count of its chain overflows. -/
theorem check_eq_none_of_overflow (name : String)
    (hover : h.count .word maxDepth b.eventType = .overflow) :
    check .word h maxDepth name [b] = none := by
  have hverdict : b.verdict .word h maxDepth [] = .undecided := by
    rw [verdict, List.find?_nil]
    dsimp only
    rw [hover]
  rw [check, firstMisfit?, hverdict]

/-! ## The first binding that does not fit -/

/-- Bindings that all fit may be taken for earlier ones. -/
theorem firstMisfit?_append {c : Counter} {rest : List Binding}
    (hnone : firstMisfit? c h maxDepth earlier bindings = none) :
    firstMisfit? c h maxDepth earlier (bindings ++ rest)
      = firstMisfit? c h maxDepth (earlier ++ bindings) rest := by
  induction bindings generalizing earlier with
  | nil => rw [List.nil_append, List.append_nil]
  | cons b bs ih =>
    obtain ⟨hb, hbs⟩ := firstMisfit?_cons_eq_none_iff.1 hnone
    rw [List.cons_append, firstMisfit?, hb, List.append_cons earlier b bs]
    exact ih hbs

/-- The first binding that does not fit stands after bindings that do. -/
theorem exists_of_firstMisfit?_ne_none {c : Counter}
    (hmisfit : firstMisfit? c h maxDepth earlier bindings ≠ none) :
    ∃ fine b rest, bindings = fine ++ b :: rest ∧
      firstMisfit? c h maxDepth earlier fine = none ∧
      b.verdict c h maxDepth (earlier ++ fine) ≠ .fits := by
  induction bindings generalizing earlier with
  | nil => exact absurd rfl hmisfit
  | cons x xs ih =>
    by_cases hx : x.verdict c h maxDepth earlier = .fits
    · have hrest : firstMisfit? c h maxDepth (earlier ++ [x]) xs ≠ none :=
        fun hnone => hmisfit (firstMisfit?_cons_eq_none_iff.2 ⟨hx, hnone⟩)
      obtain ⟨fine, b, rest, rfl, hfine, hb⟩ := ih hrest
      refine ⟨x :: fine, b, rest, rfl, firstMisfit?_cons_eq_none_iff.2 ⟨hx, hfine⟩, ?_⟩
      rwa [List.append_cons]
    · exact ⟨[], x, xs, rfl, rfl, by rwa [List.append_nil]⟩

/-- Bindings pass the rules if each of them fits after those before it. -/
theorem firstMisfit?_eq_none_iff (hword : maxDepth < UInt64.size) :
    firstMisfit? .word h maxDepth earlier bindings = none ↔
      ∀ j a, bindings[j]? = some a → Fits h maxDepth (earlier ++ bindings.take j) a := by
  induction bindings generalizing earlier with
  | nil => simp [firstMisfit?]
  | cons b rest ih =>
    rw [firstMisfit?_cons_eq_none_iff, verdict_word_eq_fits_iff hword, ih]
    constructor
    · rintro ⟨hb, hrest⟩ j a hj
      cases j with
      | zero =>
        cases hj
        simpa using hb
      | succ j =>
        rw [List.take_succ_cons, List.append_cons]
        exact hrest j a hj
    · intro hall
      refine ⟨?_, ?_⟩
      · simpa using hall 0 b rfl
      · intro j a hj
        have hnext := hall (j + 1) a hj
        rwa [List.take_succ_cons, List.append_cons] at hnext

/-- Bindings pass the rules exactly if no two of them claim the same and all their chains end. -/
theorem firstMisfit?_nil_eq_none_iff (hword : maxDepth < UInt64.size) :
    firstMisfit? .word h maxDepth [] bindings = none ↔ (bindings.map claim).Nodup ∧
      ∀ b ∈ bindings, (h.chainLength? maxDepth b.eventType).isSome = true := by
  constructor
  · intro hnone
    have hpairwise := pairwise_of_firstMisfit?_eq_none List.Pairwise.nil hnone
    rw [List.nil_append, pairwise_clashes_iff] at hpairwise
    refine ⟨hpairwise, ?_⟩
    intro b hb
    rw [← Hierarchy.length?_count_word hword]
    exact isSome_length?_of_firstMisfit?_eq_none hnone b hb
  · rintro ⟨hnodup, hchains⟩
    rw [firstMisfit?_eq_none_iff hword]
    intro j b hj
    obtain ⟨hlength, rfl⟩ := List.getElem?_eq_some_iff.1 hj
    refine ⟨?_, hchains _ (List.getElem_mem _)⟩
    intro a ha hclaim
    obtain ⟨i, hi, rfl⟩ := List.mem_take_iff_getElem.1 ha
    -- A binding before it at another position claims something else.
    have hne := List.pairwise_iff_getElem.1 hnodup i j (by simp; omega) (by simpa using hlength)
      (by omega)
    simp only [List.getElem_map] at hne
    exact hne hclaim

/-- The first binding that breaks a rule decides the check, whatever comes after it. -/
theorem check_of_misfit {fine : List Binding} {v : Violation} (name : String)
    (hfine : firstMisfit? .word h maxDepth [] fine = none)
    (hverdict : b.verdict .word h maxDepth fine
      = if Overflows maxDepth b v then .undecided else .breaks v) (later : List Binding) :
    check .word h maxDepth name (fine ++ b :: later) = answer? maxDepth name b v := by
  rw [check, firstMisfit?_append hfine, List.nil_append, firstMisfit?, hverdict, answer?]
  by_cases hover : Overflows maxDepth b v
  · rw [if_pos hover, if_pos hover]
  · rw [if_neg hover, if_neg hover]

end Binding

/-! ## The tables -/

namespace Assoc

variable {κ α : Type} [DecidableEq κ]

/-- What is entered under a new key comes last. -/
theorem entries_insert {m : Assoc κ α} {k : κ} (hk : k ∉ m.keys) (v : α) :
    (m.insert k v).entries = m.entries ++ [(k, v)] := by
  obtain ⟨es⟩ := m
  simp only [keys, insert] at hk ⊢
  induction es with
  | nil => rfl
  | cons e rest ih =>
    rw [List.map_cons, List.mem_cons, not_or] at hk
    rw [put, if_neg (Ne.symm hk.1), ih hk.2, List.cons_append]

end Assoc

namespace Member

/-- The handlers of a phase among some handlers, each with the type that it is bound to. -/
def tabled (p : Phase) (handlers : List BoundHandler) : List (EventType × BoundHandler) :=
  (handlers.filter (·.descriptor.phase = p)).map fun b => (b.eventType, b)

/-- Handlers that claim different places are entered one after the other. -/
theorem entries_table_foldl_bind {handlers : List BoundHandler}
    (hdistinct : handlers.Pairwise fun a b =>
      ¬(a.descriptor.phase = b.descriptor.phase ∧ a.eventType = b.eventType)) {m : Member}
    (hfree : ∀ b ∈ handlers, b.eventType ∉ (m.table b.descriptor.phase).keys) (p : Phase) :
    ((handlers.foldl bind m).table p).entries = (m.table p).entries ++ tabled p handlers := by
  induction handlers generalizing m with
  | nil => simp [tabled]
  | cons b rest ih =>
    rw [List.pairwise_cons] at hdistinct
    rw [List.forall_mem_cons] at hfree
    have hkeys := Assoc.keys_insert (m.table b.descriptor.phase) b.eventType b
    rw [if_neg hfree.1] at hkeys
    rw [List.foldl_cons, ih hdistinct.2, table_bind]
    · by_cases hp : b.descriptor.phase = p
      · subst hp
        simp [tabled, Assoc.entries_insert hfree.1]
      · simp [tabled, hp]
    · intro a ha
      rw [table_bind]
      split
      · rename_i hphase
        rw [← hphase, hkeys, List.mem_append, List.mem_singleton]
        rintro (hold | heq)
        · exact hfree.2 a ha (hphase ▸ hold)
        · exact hdistinct.1 a ha ⟨hphase, heq.symm⟩
      · exact hfree.2 a ha

/-- Each table of a member holds the handlers of its phase, none of them lost. -/
theorem entries_table_build {o : ObjectId} {name : String} {bindings : List Binding} {firstId : Nat}
    (hdistinct : (bindings.map Binding.claim).Nodup) (p : Phase) :
    ((build o name bindings firstId).table p).entries
      = tabled p (handlers o name bindings firstId) := by
  have hempty (p : Phase) : (({ observer := o, observerType := name } : Member).table p) = ∅ := by
    cases p <;> rfl
  have hpairwise := Binding.pairwise_clashes_iff.2 hdistinct
  rw [build, entries_table_foldl_bind (pairwise_handlers hpairwise), hempty]
  · rfl
  · intro b _
    rw [hempty]
    exact List.not_mem_nil

end Member

/-- Under a bound of 64 bits the bindings of an observer type are accepted exactly if there are
some, no two of them claim the same, and their chains end within the bound; the universal root
always passes. The tables of the member that is made then hold the handlers of their phases. Without
bindings there is nothing that observes. Otherwise the first binding that does not fit after those
before it decides, and the answer is the same whatever is bound after it: the refusal names this
binding and the rule that it breaks, except that there is no answer if the count of its chain
overflows. -/
theorem Binding.first_misfit_decides (h : Hierarchy) {maxDepth : Nat}
    (hword : maxDepth < UInt64.size) (o : ObjectId) (name : String) (bindings : List Binding)
    (firstId : Nat) :
    (check .word h maxDepth name bindings = some (.ok ()) ↔
      bindings ≠ [] ∧ (bindings.map claim).Nodup ∧
        ∀ b ∈ bindings, (h.chainLength? maxDepth b.eventType).isSome = true) ∧
    h.chainLength? maxDepth .any = some 0 ∧
    (check .word h maxDepth name bindings = some (.ok ()) → ∀ p,
      ((Member.build o name bindings firstId).table p).entries
        = Member.tabled p (Member.handlers o name bindings firstId)) ∧
    (bindings = [] → check .word h maxDepth name bindings = some (.error (.notAnObserver name))) ∧
    (bindings ≠ [] → check .word h maxDepth name bindings ≠ some (.ok ()) →
      ∃ i b v, bindings[i]? = some b ∧
        (∀ j < i, ∀ a, bindings[j]? = some a → Fits h maxDepth (bindings.take j) a) ∧
        ¬ Fits h maxDepth (bindings.take i) b ∧ Breaks h maxDepth (bindings.take i) b v ∧
        check .word h maxDepth name bindings = answer? maxDepth name b v ∧
        ∀ later, check .word h maxDepth name (bindings.take (i + 1) ++ later)
          = answer? maxDepth name b v) := by
  refine ⟨?_, rfl, ?_, ?_, ?_⟩
  · rw [check_eq_ok_iff, firstMisfit?_nil_eq_none_iff hword]
  · intro hcheck p
    exact Member.entries_table_build (pairwise_clashes_iff.1 (pairwise_of_check hcheck)) p
  · rintro rfl
    rfl
  · intro hbindings hcheck
    rw [ne_eq, check_eq_ok_iff, not_and] at hcheck
    obtain ⟨fine, b, rest, rfl, hfine, hb⟩ := exists_of_firstMisfit?_ne_none (hcheck hbindings)
    rw [List.nil_append, ne_eq, verdict_word_eq_fits_iff hword] at hb
    have hnodup := ((firstMisfit?_nil_eq_none_iff hword).1 hfine).1
    obtain ⟨v, hbreaks, hverdict⟩ := exists_breaks_of_not_fits hword hnodup hb
    refine ⟨fine.length, b, v, by simp, ?_, ?_, ?_, check_of_misfit name hfine hverdict rest, ?_⟩
    · intro j hj a ha
      rw [List.getElem?_append_left hj] at ha
      rw [List.take_append_of_le_length (Nat.le_of_lt hj)]
      exact (firstMisfit?_eq_none_iff hword).1 hfine j a ha
    · rwa [List.take_left]
    · rwa [List.take_left]
    · intro later
      have htake : (fine ++ b :: rest).take (fine.length + 1) = fine ++ [b] := by
        rw [List.take_length_add_append]
        rfl
      rw [htake, List.append_assoc]
      exact check_of_misfit name hfine hverdict later

/-- A hierarchy in which one type is its own parent. -/
def muddledTypes : Hierarchy := ⟨fun i => if i = 1 then some (.custom 1) else none⟩

/-- Bindings of which the third claims what the first does and the fourth is to a type whose chain
does not end. -/
def muddle : List Binding :=
  [⟨.before, .custom 0, "first"⟩, ⟨.invoke, .any, "second"⟩, ⟨.before, .custom 0, "third"⟩,
    ⟨.after, .custom 1, "fourth"⟩]

/-- The third binding is refused for the first, whatever comes after it, and the two before it are
accepted. -/
theorem third_of_muddle_refused_for_first :
    (∀ later, Binding.check .word muddledTypes 4 "Muddle" (muddle.take 3 ++ later)
      = some (.error (.invalidObserver "Muddle" "third"
          (.duplicateHandler .before (.custom 0) "first")))) ∧
    Binding.check .word muddledTypes 4 "Muddle" (muddle.take 2) = some (.ok ()) ∧
    ((Member.build 7 "Muddle" (muddle.take 2) 5).table .invoke).entries
      = [(.any, ⟨6, 7, 1, ⟨"Muddle", "second", .invoke, .any⟩⟩)] := by
  have hword : 4 < UInt64.size := by decide
  obtain ⟨-, -, -, -, hrefused⟩ :=
    Binding.first_misfit_decides muddledTypes hword 7 "Muddle" muddle 5
  obtain ⟨-, -, htables, -, -⟩ :=
    Binding.first_misfit_decides muddledTypes hword 7 "Muddle" (muddle.take 2) 5
  have hcheck : Binding.check .word muddledTypes 4 "Muddle" (muddle.take 2) = some (.ok ()) := by
    rfl
  obtain ⟨i, b, v, hb, -, -, -, hrefusal, hlater⟩ := hrefused (by decide) (by decide)
  have hthird : Binding.check .word muddledTypes 4 "Muddle" muddle
      = some (.error (.invalidObserver "Muddle" "third"
          (.duplicateHandler .before (.custom 0) "first"))) := by
    rfl
  have hnot : ¬ Binding.Overflows 4 b v := fun hover => absurd hover.1 (by decide)
  rw [hthird, Binding.answer?, if_neg hnot] at hrefusal
  have hname : b.handler = "third" :=
    (Refusal.invalidObserver.inj (Except.error.inj (Option.some.inj hrefusal))).2.1.symm
  have hi : i = 2 := by
    have hall : ∀ j < 4, (muddle[j]?.map (·.handler)) = some "third" → j = 2 := by decide
    have hlength : i < 4 := (List.getElem?_eq_some_iff.1 hb).1
    exact hall i hlength (by rw [hb, Option.map_some, hname])
  refine ⟨?_, hcheck, (htables hcheck .invoke).trans (by rfl)⟩
  intro later
  rw [hi] at hlater
  rw [hlater later, Binding.answer?, if_neg hnot, ← hrefusal]

/-- Under the greatest bound there is no answer to a binding to a type that is its own parent. -/
theorem not_always_first_misfit_named :
    ¬ ∀ (h : Hierarchy) (maxDepth : Nat) (name : String) (bindings : List Binding),
      1 ≤ maxDepth → maxDepth < UInt64.size → bindings ≠ [] →
      Binding.check .word h maxDepth name bindings ≠ some (.ok ()) →
      ∃ b ∈ bindings, ∃ v, Binding.check .word h maxDepth name bindings
        = some (.error (.invalidObserver name b.handler v)) := by
  intro hall
  have hnone : Binding.check .word vortex (UInt64.size - 1) "Spinner"
      [⟨.invoke, .custom 0, "spin"⟩] = none :=
    Binding.check_eq_none_of_overflow "Spinner" (count_word_vortex 0)
  obtain ⟨b, -, v, hnamed⟩ := hall vortex (UInt64.size - 1) "Spinner"
    [⟨.invoke, .custom 0, "spin"⟩] (by decide) (by decide) (List.cons_ne_nil _ _)
    (by rw [hnone]; exact nofun)
  rw [hnone] at hnamed
  cases hnamed

end EventDispatch
