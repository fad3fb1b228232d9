import EventDispatch.Event.Hierarchy

/-!
# Bounded walks up the chain of an event type

A walk gives a type, its declared ancestors from the nearest on, and the universal root last. It
gives at most `limit` types below the root, so it ends on cyclic declarations too; when it has to
stop before the end of the chain it says so (`Walk.truncated`). `Hierarchy.ancestry` is the list of
everything that a walk gives. A search goes no further than to the type that it is after, however
large the bound is; what it finds is what the list holds (`Hierarchy.search_eq`).
-/

set_option autoImplicit false

namespace EventDispatch

/-- A walk under way: the type to give next, how many types below the root may still be given,
whether the root is still to come, and whether the walk has been cut short. -/
structure Walk where
  pending : Option EventType
  remaining : Nat
  rootPending : Bool
  truncated : Bool
  deriving DecidableEq, Repr

namespace Walk

/-- The walk that has given everything below the root: the root, if it is still to come. -/
def giveRoot (w : Walk) : Option EventType × Walk :=
  if w.rootPending then (some .any, { w with rootPending := false }) else (none, w)

/-- The next type of the walk. A type that no longer fits marks the walk as truncated, and the root
takes its turn. -/
def next (h : Hierarchy) (w : Walk) : Option EventType × Walk :=
  match w.pending, w.remaining with
  | some t, left + 1 => (some t, { w with pending := h.parent? t, remaining := left })
  -- The root comes in the same step in which the walk turns out too short.
  | some _, 0 => giveRoot { w with pending := none, truncated := true }
  | none, _ => giveRoot w

/-- Everything that the walk still gives, at most `fuel` types, and the walk after that. -/
def drain (h : Hierarchy) : Nat → Walk → List EventType × Walk
  | 0, w => ([], w)
  | fuel + 1, w =>
    match w.next h with
    | (none, w') => ([], w')
    | (some t, w') =>
      let (rest, last) := drain h fuel w'
      (t :: rest, last)

variable {α : Type}

/-- The first answer that `f` gives on what the walk still gives, at most `fuel` types. -/
def search (h : Hierarchy) (f : EventType → Option α) : Nat → Walk → Option α
  | 0, _ => none
  | fuel + 1, w =>
    match w.next h with
    | (none, _) => none
    | (some t, w') =>
      match f t with
      | some a => some a
      | none => search h f fuel w'

theorem search_eq_findSome?_drain (h : Hierarchy) (f : EventType → Option α) (fuel : Nat)
    (w : Walk) : w.search h f fuel = (w.drain h fuel).1.findSome? f := by
  induction fuel generalizing w with
  | zero => rfl
  | succ fuel ih =>
    rw [search, drain]
    split
    · simp
    · cases hf : f _ <;> simp [hf, ih]

end Walk

namespace Hierarchy

variable (h : Hierarchy)

/-- The walk from `t` that gives at most `limit` types below the root. -/
def walk (limit : Nat) (t : EventType) : Walk where
  pending := if t = .any then none else some t
  remaining := limit
  rootPending := true
  truncated := false

/-- The finished walk: `limit` types, the root and the end are all that it can meet. -/
def finishedWalk (limit : Nat) (t : EventType) : List EventType × Walk :=
  (walk limit t).drain h (limit + 2)

/-- The types that an event of type `t` belongs to: `t`, its ancestors from the nearest on, at most
`limit` of these together, and the universal root. -/
def ancestry (limit : Nat) (t : EventType) : List EventType := (h.finishedWalk limit t).1

/-- Whether the chain of `t` is too long to be walked to its end. -/
def exceeds (limit : Nat) (t : EventType) : Bool := (h.finishedWalk limit t).2.truncated

/-- The first answer that `f` gives on the types of `ancestry`. -/
def search {α : Type} (limit : Nat) (t : EventType) (f : EventType → Option α) : Option α :=
  (walk limit t).search h f (limit + 2)

/-- Whether a type is `u` or descends from `u` within the bound. -/
def isA (limit : Nat) (t u : EventType) : Bool :=
  (h.search limit t fun v => if v = u then some v else none).isSome

theorem search_eq {α : Type} (limit : Nat) (t : EventType) (f : EventType → Option α) :
    h.search limit t f = (h.ancestry limit t).findSome? f :=
  (walk limit t).search_eq_findSome?_drain h f (limit + 2)

/-- A type belongs to the types of its walk and to no others. -/
theorem isA_iff {limit : Nat} {t u : EventType} :
    h.isA limit t u = true ↔ u ∈ h.ancestry limit t := by
  simp [isA, search_eq, List.findSome?_isSome_iff]

end Hierarchy

end EventDispatch
