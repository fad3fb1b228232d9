/-!
# Finite maps that keep insertion order

`Assoc κ α` holds key/value pairs in the order in which their keys first came in. Inserting under
a present key replaces the value where it stands. The lemmas give the value found under each key
after an insertion, a removal and an emptying, the keys after an insertion, and which operations may
change places, so that no proof opens the list of entries.
-/

set_option autoImplicit false

namespace EventDispatch

variable {κ α : Type}

/-- A finite map as the list of its entries, oldest key first. -/
structure Assoc (κ α : Type) where
  entries : List (κ × α) := []
  deriving DecidableEq, Repr

namespace Assoc

instance : EmptyCollection (Assoc κ α) := ⟨⟨[]⟩⟩

instance : Inhabited (Assoc κ α) := ⟨∅⟩

/-- The number of entries. -/
def size (m : Assoc κ α) : Nat := m.entries.length

/-- The keys, oldest first. -/
def keys (m : Assoc κ α) : List κ := m.entries.map Prod.fst

variable [DecidableEq κ]

/-- The value of the first entry under a key. -/
def lookup (k : κ) : List (κ × α) → Option α
  | [] => none
  | (k', v) :: rest => if k' = k then some v else lookup k rest

/-- Replaces the value under a key, or appends a new entry. -/
def put (k : κ) (v : α) : List (κ × α) → List (κ × α)
  | [] => [(k, v)]
  | (k', v') :: rest => if k' = k then (k, v) :: rest else (k', v') :: put k v rest

/-- The value under a key, if there is one. -/
def find? (m : Assoc κ α) (k : κ) : Option α := lookup k m.entries

/-- The map with `v` under `k`; a present key keeps its place. -/
def insert (m : Assoc κ α) (k : κ) (v : α) : Assoc κ α := ⟨put k v m.entries⟩

/-- The map without the key `k`. -/
def erase (m : Assoc κ α) (k : κ) : Assoc κ α := ⟨m.entries.filter fun e => e.1 ≠ k⟩

@[simp] theorem find?_empty (k : κ) : (∅ : Assoc κ α).find? k = none := rfl

theorem lookup_put_self (k : κ) (v : α) (es : List (κ × α)) :
    lookup k (put k v es) = some v := by
  induction es with
  | nil => simp [put, lookup]
  | cons e rest ih => by_cases h : e.1 = k <;> simp [put, lookup, h, ih]

theorem lookup_put_of_ne {k k' : κ} (hne : k' ≠ k) (v : α) (es : List (κ × α)) :
    lookup k' (put k v es) = lookup k' es := by
  induction es with
  | nil => simp [put, lookup, Ne.symm hne]
  | cons e rest ih =>
    by_cases h : e.1 = k
    · simp [put, lookup, h, Ne.symm hne]
    · by_cases h' : e.1 = k'
      · simp [put, lookup, h']
        simp [lookup, hne]
      · simp [put, lookup, h, h', ih]

/-- What was inserted is found. -/
@[simp] theorem find?_insert_self (m : Assoc κ α) (k : κ) (v : α) :
    (m.insert k v).find? k = some v :=
  lookup_put_self k v m.entries

/-- An insertion leaves the other keys alone. -/
theorem find?_insert_of_ne {k k' : κ} (hne : k' ≠ k) (m : Assoc κ α) (v : α) :
    (m.insert k v).find? k' = m.find? k' :=
  lookup_put_of_ne hne v m.entries

theorem lookup_filter_self (k : κ) (es : List (κ × α)) :
    lookup k (es.filter fun e => e.1 ≠ k) = none := by
  induction es with
  | nil => rfl
  | cons e rest ih => by_cases h : e.1 = k <;> simp_all [lookup]

theorem lookup_filter_of_ne {k k' : κ} (hne : k' ≠ k) (es : List (κ × α)) :
    lookup k' (es.filter fun e => e.1 ≠ k) = lookup k' es := by
  induction es with
  | nil => rfl
  | cons e rest ih =>
    by_cases h : e.1 = k
    · have h' : e.1 ≠ k' := fun hk => hne (hk.symm.trans h)
      simp_all [lookup]
    · by_cases h' : e.1 = k' <;> simp_all [lookup]

/-- What was removed is not found. -/
@[simp] theorem find?_erase_self (m : Assoc κ α) (k : κ) : (m.erase k).find? k = none :=
  lookup_filter_self k m.entries

/-- A removal leaves the other keys alone. -/
theorem find?_erase_of_ne {k k' : κ} (hne : k' ≠ k) (m : Assoc κ α) :
    (m.erase k).find? k' = m.find? k' :=
  lookup_filter_of_ne hne m.entries

theorem isSome_lookup_iff (k : κ) (es : List (κ × α)) :
    (lookup k es).isSome = true ↔ k ∈ es.map Prod.fst := by
  induction es with
  | nil => simp [lookup]
  | cons e rest ih =>
    by_cases h : e.1 = k
    · simp [lookup, h]
    · simpa [lookup, h, Ne.symm h] using ih

/-- A value is found under the keys and under nothing else. -/
theorem isSome_find?_iff (m : Assoc κ α) (k : κ) : (m.find? k).isSome = true ↔ k ∈ m.keys :=
  isSome_lookup_iff k m.entries

theorem map_fst_put (k : κ) (v : α) (es : List (κ × α)) :
    (put k v es).map Prod.fst
      = if k ∈ es.map Prod.fst then es.map Prod.fst else es.map Prod.fst ++ [k] := by
  induction es with
  | nil => simp [put]
  | cons e rest ih =>
    by_cases h : e.1 = k
    · simp [put, h]
    · by_cases hk : k ∈ rest.map Prod.fst <;> simp [put, h, Ne.symm h, ih, hk]

/-- An insertion adds its key at the end, unless the key is there already. -/
theorem keys_insert (m : Assoc κ α) (k : κ) (v : α) :
    (m.insert k v).keys = if k ∈ m.keys then m.keys else m.keys ++ [k] :=
  map_fst_put k v m.entries

theorem put_comm {k k' : κ} (hne : k ≠ k') (v v' : α) {es : List (κ × α)}
    (hk : k ∈ es.map Prod.fst) : put k' v' (put k v es) = put k v (put k' v' es) := by
  induction es with
  | nil => cases hk
  | cons e rest ih =>
    by_cases h : e.1 = k
    · simp [put, h, hne]
    · have hrest : k ∈ rest.map Prod.fst := by simpa [Ne.symm h] using hk
      by_cases h' : e.1 = k'
      · simp [put, h', Ne.symm hne]
      · simp [put, h, h', ih hrest]

/-- Replacing the value under a key that is present may be done before another insertion or after
it. -/
theorem insert_comm {k k' : κ} (hne : k ≠ k') (v v' : α) {m : Assoc κ α}
    (hk : (m.find? k).isSome = true) : (m.insert k v).insert k' v' = (m.insert k' v').insert k v :=
  congrArg mk (put_comm hne v v' ((isSome_find?_iff m k).1 hk))

theorem filter_put {k k' : κ} (hne : k ≠ k') (v : α) (es : List (κ × α)) :
    (put k v es).filter (fun e => e.1 ≠ k') = put k v (es.filter fun e => e.1 ≠ k') := by
  induction es with
  | nil => simp [put, hne]
  | cons e rest ih =>
    by_cases h : e.1 = k
    · simp [put, h, hne]
    · by_cases h' : e.1 = k' <;> simp_all [put]

/-- An insertion and the removal of another key do not get in each other's way. -/
theorem erase_insert {k k' : κ} (hne : k ≠ k') (v : α) (m : Assoc κ α) :
    (m.insert k v).erase k' = (m.erase k').insert k v :=
  congrArg mk (filter_put hne v m.entries)

end Assoc

end EventDispatch
