import EventDispatch.Event.Walk

/-!
# Lineages

The lineage of a type is stated without a walk: the type and the ancestors that repeated
declarations give, at most `limit` of these together, and the universal root last. A bounded walk
gives exactly the lineage (`Hierarchy.ancestry_eq_lineage`), on cyclic declarations and on chains
that are too long as on any other.
-/

set_option autoImplicit false

namespace EventDispatch

namespace Hierarchy

variable (h : Hierarchy)

/-- The types `0`, `1`, ..., `limit - 1` steps above `t`, as far as the chain reaches, and the
universal root. -/
def lineage (limit : Nat) (t : EventType) : List EventType :=
  (List.range limit).filterMap (h.above? t) ++ [.any]

/-- The first step of a chain may be taken before the others. -/
theorem above?_succ (t : EventType) (n : Nat) :
    h.above? t (n + 1) = (h.parent? t).bind fun p => h.above? p n := by
  induction n with
  | zero => cases hp : h.parent? t <;> simp [above?, hp]
  | succ n ih =>
    rw [above?, ih, Option.bind_assoc]
    rfl

end Hierarchy

namespace Walk

variable (h : Hierarchy)

/-- A walk whose root has been given gives nothing more. -/
theorem drain_finished (fuel left : Nat) (truncated : Bool) :
    (drain h fuel ⟨none, left, false, truncated⟩).1 = [] := by
  cases fuel <;> rfl

/-- A walk gives what is left of the chain, as far as there is room, and then the root. -/
theorem drain_eq (limit : Nat) (pending : Option EventType) (truncated : Bool) :
    (drain h (limit + 2) ⟨pending, limit, true, truncated⟩).1
      = (List.range limit).filterMap (fun n => pending.bind fun t => h.above? t n) ++ [.any] := by
  induction limit generalizing pending truncated with
  | zero => cases pending <;> rfl
  | succ limit ih =>
    cases pending with
    | none =>
      rw [drain]
      simp [next, giveRoot, drain_finished]
    | some t =>
      have hrest := ih (h.parent? t) truncated
      have hhead : (drain h (limit + 1 + 2) ⟨some t, limit + 1, true, truncated⟩).1
          = t :: (drain h (limit + 2) ⟨h.parent? t, limit, true, truncated⟩).1 := rfl
      rw [hhead, hrest, List.range_succ_eq_map, List.filterMap_cons, List.filterMap_map]
      have habove : (fun n => (some t).bind fun t => h.above? t n) ∘ Nat.succ
          = fun n => (h.parent? t).bind fun p => h.above? p n := by
        funext n
        exact h.above?_succ t n
      rw [habove]
      rfl

end Walk

namespace Hierarchy

variable (h : Hierarchy)

/-- A bounded walk gives the lineage of the type that it starts from. -/
theorem ancestry_eq_lineage (limit : Nat) {t : EventType} (ht : t ≠ .any) :
    h.ancestry limit t = h.lineage limit t := by
  rw [ancestry, finishedWalk, walk, if_neg ht, Walk.drain_eq]
  rfl

/-- A walk that may give a type starts with the type that it starts from. -/
theorem exists_ancestry_eq_cons {limit : Nat} (hlimit : 0 < limit) {t : EventType} (ht : t ≠ .any) :
    ∃ above, h.ancestry limit t = t :: above := by
  obtain ⟨k, rfl⟩ := Nat.exists_eq_add_one_of_ne_zero (Nat.ne_of_gt hlimit)
  rw [h.ancestry_eq_lineage _ ht, lineage, List.range_succ_eq_map]
  exact ⟨_, rfl⟩

theorem isA_self {limit : Nat} (hlimit : 0 < limit) {t : EventType} (ht : t ≠ .any) :
    h.isA limit t t = true := by
  obtain ⟨above, hwalk⟩ := h.exists_ancestry_eq_cons hlimit ht
  rw [isA_iff, hwalk]
  exact List.mem_cons_self

end Hierarchy

end EventDispatch
