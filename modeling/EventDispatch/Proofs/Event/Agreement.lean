import EventDispatch.Event.Value
import EventDispatch.Proofs.Event.Lineage

/-!
# Well-formed values

A value is well formed if the values embedded in it are of the types that its type declares
(`Event.WellFormed`). The chain of declared types above the type of a well-formed value ends, so no
type occurs twice on it, and a type `n` steps above that of the value belongs to the part `n` steps
inside it. Walking up the declared types and walking into the value therefore come to the same
place, and give up at the same bound (`Event.WellFormed.ancestor?_eq`,
`Event.WellFormed.isA_iff_lt`).
-/

set_option autoImplicit false

namespace EventDispatch

/-! ## Chains that end -/

namespace Hierarchy

variable {h : Hierarchy} {t u : EventType}

theorem above?_add (h : Hierarchy) (t : EventType) (n k : Nat) :
    h.above? t (n + k) = (h.above? t n).bind fun u => h.above? u k := by
  induction k with
  | zero => simp [above?]
  | succ k ih =>
    rw [Nat.add_succ, above?, ih, Option.bind_assoc]
    rfl

/-- Beyond the end of a chain there is nothing. -/
theorem above?_eq_none_of_le {n k : Nat} (hn : h.above? t n = none) (hle : n ≤ k) :
    h.above? t k = none := by
  obtain ⟨j, rfl⟩ := Nat.exists_eq_add_of_le hle
  rw [above?_add, hn]
  rfl

/-- A type that is some steps above itself is as many steps above itself any number of times. -/
theorem above?_mul {n : Nat} (hn : h.above? t n = some t) (k : Nat) :
    h.above? t (n * k) = some t := by
  induction k with
  | zero => rfl
  | succ k ih => rw [Nat.mul_succ, above?_add, ih, Option.bind_some, hn]

/-- On a chain that ends no type occurs twice. -/
theorem above?_inj {n k last : Nat} (hlast : h.above? t last = none) (hn : h.above? t n = some u)
    (hk : h.above? t k = some u) : n = k := by
  have hlt {i j : Nat} (hi : h.above? t i = some u) (hj : h.above? t j = some u) : ¬ i < j := by
    intro hij
    -- The chain would come back to `u` for ever.
    have hcycle : h.above? u (j - i) = some u := by
      have hadd := h.above?_add t i (j - i)
      rw [hi, Option.bind_some, Nat.add_sub_cancel' (Nat.le_of_lt hij), hj] at hadd
      exact hadd.symm
    have hbeyond : h.above? t (i + (j - i) * last) = some u := by
      rw [above?_add, hi, Option.bind_some]
      exact above?_mul hcycle last
    have hle : last ≤ i + (j - i) * last := by
      have hpos : 1 ≤ j - i := by omega
      have hmul := Nat.mul_le_mul_right last hpos
      omega
    rw [above?_eq_none_of_le hlast hle] at hbeyond
    cases hbeyond
  have hnk := hlt hn hk
  have hkn := hlt hk hn
  omega

/-- A type below the root belongs to the types that are reached from it within the bound. -/
theorem isA_iff_exists_above? {limit : Nat} (ht : t ≠ .any) (hu : u ≠ .any) :
    h.isA limit t u = true ↔ ∃ n < limit, h.above? t n = some u := by
  rw [isA_iff, ancestry_eq_lineage h limit ht, lineage, List.mem_append, List.mem_filterMap]
  constructor
  · rintro (⟨n, hn, hu'⟩ | hany)
    · exact ⟨n, List.mem_range.1 hn, hu'⟩
    · exact absurd (List.mem_singleton.1 hany) hu
  · rintro ⟨n, hn, hu'⟩
    exact .inl ⟨n, List.mem_range.2 hn, hu'⟩

end Hierarchy

namespace Event

/-! ## Parts -/

/-- The value that is embedded in `e` at depth `n`, if there is one. -/
def above? (e : Event) : Nat → Option Event
  | 0 => some e
  | n + 1 => (above? e n).bind Event.parent?

theorem above?_succ (e : Event) (n : Nat) :
    e.above? (n + 1) = e.parent?.bind fun p => p.above? n := by
  induction n with
  | zero => cases hp : e.parent? <;> simp [above?, hp]
  | succ n ih =>
    rw [above?, ih, Option.bind_assoc]
    rfl

/-- The parts of a value are the values embedded in it, by depth. -/
theorem getElem?_parts (e : Event) (n : Nat) : e.parts[n]? = e.above? n := by
  induction e generalizing n with
  | extending i d p ih =>
    cases n with
    | zero => rfl
    | succ n =>
      rw [parts, List.getElem?_cons_succ, ih, above?_succ]
      rfl
  | _ =>
    cases n with
    | zero => rfl
    | succ n =>
      rw [above?_succ]
      rfl

section Parts

variable {limit : Nat} {event part : Event} {t : EventType}

/-- An event is the part of its own type. -/
theorem part?_of_type (hlimit : 0 < limit) (htype : event.type = t) :
    event.part? limit t = some event := by
  have hany : t ≠ .any := htype ▸ event.type_ne_any
  obtain ⟨k, rfl⟩ := Nat.exists_eq_add_one_of_ne_zero (Nat.ne_of_gt hlimit)
  rw [part?, if_neg hany, ancestor?]
  have hhead := event.head?_parts
  generalize event.parts = parts at hhead
  cases parts with
  | nil => cases hhead
  | cons first rest =>
    obtain rfl : first = event := Option.some.inj hhead
    rw [List.take_succ_cons, List.find?_cons_of_pos (by simp [htype])]

theorem type_of_part? (hany : t ≠ .any) (h : event.part? limit t = some part) : part.type = t := by
  rw [part?, if_neg hany] at h
  simpa using List.find?_some h

/-- An event that is not of a type of the application embeds no other. -/
theorem eq_of_part? (hcustom : ∀ i, event.type ≠ .custom i) (hany : t ≠ .any)
    (h : event.part? limit t = some part) : part = event := by
  rw [part?, if_neg hany] at h
  have hmem := List.mem_of_mem_take (List.mem_of_find?_eq_some h)
  cases event with
  | plain i | extending i => exact absurd rfl (hcustom i)
  | observerAdded | observerRemoved | observerFailed => exact List.mem_singleton.1 hmem

end Parts

/-- Whether the values embedded in a value agree with the declared types: each of them has a parent
value exactly when its type declares a parent, and that value is of the declared type. -/
def WellFormed (h : Hierarchy) (e : Event) : Prop :=
  ∀ v ∈ e.parts, v.parent?.map Event.type = h.parent? v.type

instance (h : Hierarchy) (e : Event) : Decidable (e.WellFormed h) :=
  inferInstanceAs (Decidable (∀ v ∈ e.parts, _))

/-- Whether a value is embedded in `e` as deep as the type `t` stands above that of `e`. -/
def LiesAt (h : Hierarchy) (e : Event) (t : EventType) (part : Event) : Prop :=
  ∃ n, h.above? e.type n = some t ∧ (∀ k, h.above? e.type k = some t → k = n) ∧
    e.above? n = some part

/-! ## Two ways up -/

variable {h : Hierarchy} {e : Event} {t : EventType}

/-- The part at some depth is of the type as many steps above. -/
theorem WellFormed.map_type_above? (he : e.WellFormed h) (n : Nat) :
    (e.above? n).map Event.type = h.above? e.type n := by
  induction n with
  | zero => rfl
  | succ n ih =>
    rw [above?, Hierarchy.above?, ← ih]
    cases hv : e.above? n with
    | none => rfl
    | some v =>
      have hmem : v ∈ e.parts := List.mem_of_getElem? ((e.getElem?_parts n).trans hv)
      exact he v hmem

/-- The chain of types above that of a well-formed value ends where the value does. -/
theorem WellFormed.above?_length (he : e.WellFormed h) :
    h.above? e.type e.parts.length = none := by
  rw [← he.map_type_above?, ← getElem?_parts, List.getElem?_eq_none (Nat.le_refl _)]
  rfl

/-- Of the parts of a well-formed value at most one is of a given type. -/
theorem WellFormed.depth_eq (he : e.WellFormed h) {n k : Nat} {v : Event}
    (hn : h.above? e.type n = some t) (hv : e.parts[k]? = some v) (htype : v.type = t) :
    k = n := by
  apply Hierarchy.above?_inj he.above?_length _ hn
  rw [← he.map_type_above?, ← getElem?_parts, hv, Option.map_some, htype]

/-- What is looked for in a well-formed value is found at the depth at which its type stands above
that of the value, if the bound allows to look there. -/
theorem WellFormed.ancestor?_eq (he : e.WellFormed h) {n : Nat} (hn : h.above? e.type n = some t)
    (limit : Nat) : e.ancestor? limit t = if n < limit then e.above? n else none := by
  obtain ⟨v, hv, htype⟩ := Option.map_eq_some_iff.1 ((he.map_type_above? n).trans hn)
  rw [ancestor?]
  split
  · rename_i hlt
    obtain ⟨hlength, hget⟩ := List.getElem?_eq_some_iff.1 ((e.getElem?_parts n).trans hv)
    rw [hv, List.find?_eq_some_iff_getElem]
    have hin : n < (e.parts.take limit).length := by
      rw [List.length_take]
      omega
    refine ⟨by simpa using htype, n, hin, by simp [hget], ?_⟩
    -- A part before it is at another depth, hence of another type.
    intro j hj
    have hne : e.parts[j].type ≠ t := by
      intro heq
      have hdepth := he.depth_eq hn (List.getElem?_eq_getElem _) heq
      omega
    simpa using hne
  · rename_i hle
    rw [List.find?_eq_none]
    intro x hx heq
    obtain ⟨j, hj, rfl⟩ := List.mem_iff_getElem.1 hx
    rw [List.length_take] at hj
    have hlength : j < e.parts.length := by omega
    have hdepth := he.depth_eq hn (List.getElem?_eq_getElem hlength) (by simpa using heq)
    omega

/-- A type that the chain does not come to is not found. -/
theorem WellFormed.ancestor?_eq_none (he : e.WellFormed h)
    (hnone : ∀ n, h.above? e.type n ≠ some t) (limit : Nat) : e.ancestor? limit t = none := by
  rw [ancestor?, List.find?_eq_none]
  intro x hx heq
  obtain ⟨j, hj⟩ := List.getElem?_of_mem (List.mem_of_mem_take hx)
  apply hnone j
  rw [← he.map_type_above?, ← getElem?_parts, hj, Option.map_some, of_decide_eq_true heq]

/-- The declared types say the same of a type on the chain: it is one of the value's types if the
bound allows to walk there. -/
theorem WellFormed.isA_iff_lt (he : e.WellFormed h) (ht : t ≠ .any) {n : Nat}
    (hn : h.above? e.type n = some t) (limit : Nat) : e.isA h limit t = true ↔ n < limit := by
  rw [isA, Hierarchy.isA_iff_exists_above? e.type_ne_any ht]
  constructor
  · rintro ⟨k, hk, habove⟩
    rwa [Hierarchy.above?_inj he.above?_length hn habove]
  · intro hlt
    exact ⟨n, hlt, hn⟩

/-- What is found is embedded as deep as its type stands above that of the value. -/
theorem WellFormed.liesAt (he : e.WellFormed h) {limit : Nat} {part : Event}
    (hpart : e.ancestor? limit t = some part) : e.LiesAt h t part := by
  by_cases hreached : ∃ n, h.above? e.type n = some t
  · obtain ⟨n, hn⟩ := hreached
    rw [he.ancestor?_eq hn] at hpart
    split at hpart
    · exact ⟨n, hn, fun k hk => Hierarchy.above?_inj he.above?_length hk hn, hpart⟩
    · cases hpart
  · rw [he.ancestor?_eq_none fun n hn => hreached ⟨n, hn⟩] at hpart
    cases hpart

/-- A part of some type is found exactly if the value is of that type by declaration. -/
theorem WellFormed.isSome_ancestor?_iff (he : e.WellFormed h) (ht : t ≠ .any) (limit : Nat) :
    (e.ancestor? limit t).isSome = true ↔ e.isA h limit t = true := by
  by_cases hreached : ∃ n, h.above? e.type n = some t
  · obtain ⟨n, hn⟩ := hreached
    obtain ⟨v, hv, -⟩ := Option.map_eq_some_iff.1 ((he.map_type_above? n).trans hn)
    rw [he.isA_iff_lt ht hn, he.ancestor?_eq hn, hv]
    by_cases hlt : n < limit <;> simp [hlt]
  · have hnone : ∀ n, h.above? e.type n ≠ some t := fun n hn => hreached ⟨n, hn⟩
    rw [he.ancestor?_eq_none hnone, isA, Hierarchy.isA_iff_exists_above? e.type_ne_any ht]
    constructor
    · intro hfalse
      cases hfalse
    · rintro ⟨n, -, hn⟩
      exact absurd hn (hnone n)

end Event

end EventDispatch
