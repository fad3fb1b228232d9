/-!
# Event types and their declared parents

Every event value has one concrete type. A type may declare one parent; following the declared
parents gives a chain, and above every chain stands the universal root `EventType.any`, which is
never declared explicitly: a declaration that names it counts as none. A declaration may run into a
cycle, so the types of a chain are counted against a bound (`Hierarchy.count`). The count is made
with a counter, which may be too small for it.
-/

set_option autoImplicit false

namespace EventDispatch

/-- The identity of an event type: the universal root, the three types of events that a manager
fires itself, and the types of the application, told apart by an index. -/
inductive EventType where
  | any
  | observerAdded
  | observerRemoved
  | observerFailed
  | custom (index : Nat)
  deriving DecidableEq, Repr, Inhabited

/-- The parents that the application's event types declare. -/
structure Hierarchy where
  declared : Nat → Option EventType

namespace Hierarchy

variable (h : Hierarchy)

/-- The declared parent of a type, never the universal root. -/
def parent? : EventType → Option EventType
  | .custom i => (h.declared i).filter (· ≠ .any)
  | _ => none

@[simp] theorem parent?_any : h.parent? .any = none := rfl

theorem parent?_ne_any {t p : EventType} (hp : h.parent? t = some p) : p ≠ .any := by
  cases t with
  | custom i =>
    simp only [parent?, Option.filter_eq_some_iff, decide_eq_true_eq] at hp
    exact hp.2
  | _ => simp [parent?] at hp

/-- The type `n` steps above `t`, if the chain reaches that far. -/
def above? (t : EventType) : Nat → Option EventType
  | 0 => some t
  | n + 1 => (above? t n).bind h.parent?

end Hierarchy

/-! ## Counting the types of a chain -/

/-- How a counter is raised: to the next number, or not at all if that does not fit. -/
structure Counter where
  raise? : Nat → Option Nat

namespace Counter

/-- A counter that every number fits into. -/
def exact : Counter := ⟨fun n => some (n + 1)⟩

/-- A counter of 64 bits. -/
def word : Counter := ⟨fun n => if n + 1 < UInt64.size then some (n + 1) else none⟩

end Counter

/-- A count of the types of a chain: under way, with the next type of the chain if it goes on and
the number so far; ended with the length of the chain, or because the chain is too long; or broken
off because the counter could not be raised. -/
inductive Tally where
  | counting (next : Option EventType) (number : Nat)
  | length (number : Nat)
  | tooLong
  | overflow
  deriving DecidableEq, Repr, Inhabited

namespace Tally

/-- The length of a chain, if it has been counted to its end. -/
def length? : Tally → Option Nat
  | .length number => some number
  | _ => none

variable (c : Counter) (h : Hierarchy) (limit : Nat)

/-- One round of a count. The counter is raised before it is compared with the bound. -/
def step : Tally → Tally
  | .counting (some t) number =>
    match c.raise? number with
    | none => .overflow
    | some raised => if limit < raised then .tooLong else .counting (h.parent? t) raised
  | .counting none number => if limit < number then .tooLong else .length number
  | tally => tally

/-- A count for at most so many rounds. -/
def run : Nat → Tally → Tally
  | rounds + 1, .counting next number => run rounds (step c h limit (.counting next number))
  | _, tally => tally

/-- Whether a count goes on. -/
def isCounting : Tally → Bool
  | .counting .. => true
  | _ => false

@[simp] theorem run_zero (tally : Tally) : tally.run c h limit 0 = tally := by
  cases tally <;> rfl

/-- A count that has ended or been broken off stays as it is. -/
theorem run_of_isCounting_eq_false {tally : Tally} (hended : tally.isCounting = false)
    (rounds : Nat) : tally.run c h limit rounds = tally := by
  cases tally with
  | counting => cases hended
  | _ => cases rounds <;> rfl

theorem run_succ (rounds : Nat) (tally : Tally) :
    tally.run c h limit (rounds + 1) = (tally.step c h limit).run c h limit rounds := by
  cases tally with
  | counting => rfl
  | _ => cases rounds <;> rfl

theorem run_add (m n : Nat) (tally : Tally) :
    tally.run c h limit (m + n) = (tally.run c h limit m).run c h limit n := by
  induction m generalizing tally with
  | zero => rw [Nat.zero_add, run_zero]
  | succ m ih => rw [Nat.succ_add, run_succ, ih, run_succ]

theorem run_succ_eq_step (rounds : Nat) (tally : Tally) :
    tally.run c h limit (rounds + 1) = (tally.run c h limit rounds).step c h limit := by
  rw [run_add, run_succ, run_zero]

/-- A counter that is raised wherever another one is, and to the same numbers, counts the same as
long as the other one is not too small. -/
theorem run_eq_of_raises {c c' : Counter} {h : Hierarchy} {limit : Nat}
    (hraises : ∀ {n m}, c.raise? n = some m → c'.raise? n = some m) {rounds : Nat} {tally : Tally}
    (hfits : tally.run c h limit rounds ≠ .overflow) :
    tally.run c' h limit rounds = tally.run c h limit rounds := by
  induction rounds generalizing tally with
  | zero => rw [run_zero, run_zero]
  | succ rounds ih =>
    rw [run_succ] at hfits ⊢
    have hstep : tally.step c' h limit = tally.step c h limit := by
      cases tally with
      | counting next number =>
        cases next with
        | none => rfl
        | some t =>
          cases hraise : c.raise? number with
          | none =>
            -- The first counter would have been too small.
            rw [step, hraise, run_of_isCounting_eq_false c h limit rfl] at hfits
            exact absurd rfl hfits
          | some raised => rw [step, step, hraise, hraises hraise]
      | _ => rfl
    rw [run_succ, hstep, ih hfits]

end Tally

namespace Hierarchy

variable (h : Hierarchy)

/-- The count of the types from `t` upwards, with `t` counted and the universal root not. -/
def tally (t : EventType) : Tally :=
  if t = .any then .length 0 else .counting (h.parent? t) 1

/-- The types from `t` up to and without the universal root, counted with the counter `c` unless
there are more than `limit`, as on every cycle. -/
def count (c : Counter) (limit : Nat) (t : EventType) : Tally :=
  -- Each round raises the counter, so it has passed the bound by then.
  (h.tally t).run c h limit (limit + 1)

/-- The number of types from `t` up to and without the universal root, or `none` if there are more
than `limit`, counted with a counter that is never too small. -/
def chainLength? (limit : Nat) (t : EventType) : Option Nat := (h.count .exact limit t).length?

/-- Under the bound zero every chain is too long. -/
theorem count_zero {c : Counter} (hone : c.raise? 1 = some 2) {t : EventType} (ht : t ≠ .any) :
    h.count c 0 t = .tooLong := by
  rw [count, Tally.run_succ, Tally.run_zero, tally, if_neg ht]
  cases h.parent? t with
  | none => rfl
  | some p =>
    rw [Tally.step, hone]
    rfl

/-- A count in words that is not broken off is the count with any numbers. -/
theorem count_exact_eq {h : Hierarchy} {limit : Nat} {t : EventType}
    (hfits : h.count .word limit t ≠ .overflow) :
    h.count .exact limit t = h.count .word limit t := by
  refine Tally.run_eq_of_raises ?_ hfits
  intro n m hraise
  obtain ⟨-, hm⟩ := Option.ite_none_right_eq_some.1 hraise
  exact hm

end Hierarchy

end EventDispatch
