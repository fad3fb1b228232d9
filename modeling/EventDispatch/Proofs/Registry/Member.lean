import EventDispatch.Observer.Plan

/-!
# The handlers of a registered observer

A registration that passes the rules binds no phase and event type twice, so the three tables of the
member that it makes hold each of its handlers, and nothing else. Looking up a type in a table is
looking for the binding of that phase and type (`find?_table_build`). The walk that a member makes
for an event of a type therefore comes to the first type that one of its bindings names
(`handler?_build`).
-/

set_option autoImplicit false

namespace EventDispatch

/-- The values of a map, oldest key first. -/
def Assoc.values {κ α : Type} (m : Assoc κ α) : List α := m.entries.map Prod.snd

namespace Assoc

variable {κ α : Type} [DecidableEq κ]

theorem mem_values_of_lookup {k : κ} {v : α} {es : List (κ × α)} (h : lookup k es = some v) :
    v ∈ es.map Prod.snd := by
  induction es with
  | nil => simp [lookup] at h
  | cons e rest ih =>
    by_cases hk : e.1 = k
    · simp only [lookup, hk, if_true, Option.some.injEq] at h
      simp [h]
    · simp only [lookup, hk, if_false] at h
      exact List.mem_cons_of_mem _ (ih h)

/-- What is found is one of the values. -/
theorem mem_values_of_find? {m : Assoc κ α} {k : κ} {v : α} (h : m.find? k = some v) :
    v ∈ m.values :=
  mem_values_of_lookup h

theorem mem_map_snd_put {k : κ} {v x : α} {es : List (κ × α)}
    (h : x ∈ (put k v es).map Prod.snd) : x = v ∨ x ∈ es.map Prod.snd := by
  induction es with
  | nil => exact Or.inl (by simpa [put] using h)
  | cons e rest ih =>
    by_cases hk : e.1 = k
    · simp only [put, hk, if_true, List.map_cons, List.mem_cons] at h
      exact h.imp id (List.mem_cons_of_mem _)
    · simp only [put, hk, if_false, List.map_cons, List.mem_cons] at h
      rcases h with rfl | h
      · exact Or.inr (by simp)
      · exact (ih h).imp id (List.mem_cons_of_mem _)

/-- An insertion adds no value but its own. -/
theorem mem_values_insert {m : Assoc κ α} {k : κ} {v x : α} (h : x ∈ (m.insert k v).values) :
    x = v ∨ x ∈ m.values :=
  mem_map_snd_put h

end Assoc

/-! ## The rules of registration -/

namespace Binding

variable {c : Counter} {h : Hierarchy} {maxDepth : Nat} {earlier bindings : List Binding}
  {b : Binding}

/-- A binding fits if it clashes with none before it and the count of its chain ends with a
length. -/
theorem verdict_eq_fits_iff : b.verdict c h maxDepth earlier = .fits ↔
    (∀ a ∈ earlier, a.clashes b = false) ∧
      ((h.count c maxDepth b.eventType).length?).isSome = true := by
  have hfree : (∀ a ∈ earlier, a.clashes b = false) ↔ earlier.find? (·.clashes b) = none := by
    simp only [List.find?_eq_none, Bool.not_eq_true]
  rw [hfree, verdict]
  cases earlier.find? (·.clashes b) with
  | some a => simp
  | none => cases h.count c maxDepth b.eventType <;> simp [Tally.length?]

/-- Bindings all fit if the first one does after those before it, and the others do after it. -/
theorem firstMisfit?_cons_eq_none_iff : firstMisfit? c h maxDepth earlier (b :: bindings) = none ↔
    b.verdict c h maxDepth earlier = .fits ∧
      firstMisfit? c h maxDepth (earlier ++ [b]) bindings = none := by
  rw [firstMisfit?]
  cases b.verdict c h maxDepth earlier <;> simp

/-- Bindings that all fit do not clash. -/
theorem pairwise_of_firstMisfit?_eq_none
    (hearlier : earlier.Pairwise fun a b => a.clashes b = false)
    (hnone : firstMisfit? c h maxDepth earlier bindings = none) :
    (earlier ++ bindings).Pairwise fun a b => a.clashes b = false := by
  -- The bindings that fit move over to the earlier ones.
  induction bindings generalizing earlier with
  | nil => simpa using hearlier
  | cons b rest ih =>
    obtain ⟨hb, hrest⟩ := firstMisfit?_cons_eq_none_iff.1 hnone
    have hclash := (verdict_eq_fits_iff.1 hb).1
    rw [List.append_cons]
    refine ih ?_ hrest
    rw [List.pairwise_append]
    refine ⟨hearlier, List.pairwise_singleton _ _, ?_⟩
    intro a ha b' hb'
    rw [List.mem_singleton.1 hb']
    exact hclash a ha

/-- The chains of bindings that all fit are counted to their ends. -/
theorem isSome_length?_of_firstMisfit?_eq_none
    (hnone : firstMisfit? c h maxDepth earlier bindings = none) :
    ∀ b ∈ bindings, ((h.count c maxDepth b.eventType).length?).isSome = true := by
  induction bindings generalizing earlier with
  | nil => simp
  | cons b rest ih =>
    obtain ⟨hb, hrest⟩ := firstMisfit?_cons_eq_none_iff.1 hnone
    exact List.forall_mem_cons.2 ⟨(verdict_eq_fits_iff.1 hb).2, ih hrest⟩

variable {observer : String}

theorem check_eq_ok_iff : check c h maxDepth observer bindings = some (.ok ()) ↔
    bindings ≠ [] ∧ firstMisfit? c h maxDepth [] bindings = none := by
  rw [check]
  cases firstMisfit? c h maxDepth [] bindings with
  | some misfit =>
    obtain ⟨b, verdict⟩ := misfit
    cases verdict <;> simp
  | none => cases bindings <;> simp

theorem pairwise_of_check (hcheck : check c h maxDepth observer bindings = some (.ok ())) :
    bindings.Pairwise fun a b => a.clashes b = false :=
  pairwise_of_firstMisfit?_eq_none List.Pairwise.nil (check_eq_ok_iff.1 hcheck).2

/-- The chains of bindings that pass the check in words end within the bound. -/
theorem isSome_chainLength?_of_check
    (hcheck : check .word h maxDepth observer bindings = some (.ok ())) :
    ∀ b ∈ bindings, (h.chainLength? maxDepth b.eventType).isSome = true := by
  intro b hb
  have hlength := isSome_length?_of_firstMisfit?_eq_none (check_eq_ok_iff.1 hcheck).2 b hb
  have hfits : h.count .word maxDepth b.eventType ≠ .overflow := by
    intro hover
    rw [hover] at hlength
    cases hlength
  rwa [Hierarchy.chainLength?, Hierarchy.count_exact_eq hfits]

/-- The binding that contributes to a phase: the one that is bound to the first of the types that
any binding of the phase is bound to. -/
def choose? (bindings : List Binding) (p : Phase) (types : List EventType) : Option Nat :=
  types.findSome? fun t => bindings.findIdx? fun b => b.phase = p && b.eventType = t

end Binding

/-! ## Tables -/

namespace Member

/-- The handlers of a member, phase by phase. -/
def bound (m : Member) : List BoundHandler := Phase.all.flatMap fun p => (m.table p).values

theorem mem_bound {m : Member} {b : BoundHandler} :
    b ∈ m.bound ↔ ∃ p, b ∈ (m.table p).values := by
  simp [bound, Phase.mem_all]

/-- The handler that a member offers is one of its handlers. -/
theorem mem_bound_of_handler? {m : Member} {h : Hierarchy} {maxDepth : Nat} {p : Phase}
    {t : EventType} {b : BoundHandler} (hb : m.handler? h maxDepth p t = some b) :
    b ∈ m.bound := by
  unfold handler? at hb
  split at hb
  · simp at hb
  · rw [Hierarchy.search_eq] at hb
    obtain ⟨u, -, hu⟩ := List.exists_of_findSome?_eq_some hb
    exact mem_bound.2 ⟨p, Assoc.mem_values_of_find? hu⟩

theorem table_bind (m : Member) (b : BoundHandler) (p : Phase) :
    (m.bind b).table p
      = if b.descriptor.phase = p then (m.table p).insert b.eventType b else m.table p := by
  cases hp : b.descriptor.phase <;> cases p <;> simp [bind, table, hp]

theorem find?_table_bind (m : Member) (b : BoundHandler) (p : Phase) (t : EventType) :
    ((m.bind b).table p).find? t
      = if b.descriptor.phase = p ∧ b.eventType = t then some b else (m.table p).find? t := by
  rw [table_bind]
  by_cases hp : b.descriptor.phase = p
  · by_cases ht : b.eventType = t
    · simp [hp, ht]
    · simp [hp, ht, Assoc.find?_insert_of_ne (Ne.symm ht)]
  · simp [hp]

theorem mem_bound_bind {m : Member} {b x : BoundHandler} (h : x ∈ (m.bind b).bound) :
    x = b ∨ x ∈ m.bound := by
  obtain ⟨p, hx⟩ := mem_bound.1 h
  rw [table_bind] at hx
  split at hx
  · exact (Assoc.mem_values_insert hx).imp id fun hx => mem_bound.2 ⟨p, hx⟩
  · exact Or.inr (mem_bound.2 ⟨p, hx⟩)

theorem mem_bound_foldl_bind {handlers : List BoundHandler} {m : Member} {x : BoundHandler}
    (h : x ∈ (handlers.foldl bind m).bound) : x ∈ handlers ∨ x ∈ m.bound := by
  induction handlers generalizing m with
  | nil => exact Or.inr h
  | cons b rest ih =>
    rcases ih h with hrest | hbind
    · exact Or.inl (List.mem_cons_of_mem _ hrest)
    · exact (mem_bound_bind hbind).imp (fun hx => by simp [hx]) id

/-- Of handlers that claim different places, the one that claims a place is found there. -/
theorem find?_table_foldl_bind {handlers : List BoundHandler} {p : Phase} {t : EventType}
    (hdistinct : handlers.Pairwise fun a b =>
      ¬(a.descriptor.phase = b.descriptor.phase ∧ a.eventType = b.eventType)) (m : Member) :
    ((handlers.foldl bind m).table p).find? t
      = (handlers.find? fun b => b.descriptor.phase = p && b.eventType = t).or
          ((m.table p).find? t) := by
  induction handlers generalizing m with
  | nil => simp
  | cons b rest ih =>
    rw [List.pairwise_cons] at hdistinct
    rw [List.foldl_cons, ih hdistinct.2, find?_table_bind, List.find?_cons]
    by_cases hb : b.descriptor.phase = p ∧ b.eventType = t
    · -- No later handler claims the place, so what `b` enters stays there.
      have hrest : (rest.find? fun b => b.descriptor.phase = p && b.eventType = t) = none := by
        rw [List.find?_eq_none]
        intro a ha hat
        simp only [Bool.and_eq_true, decide_eq_true_eq] at hat
        exact hdistinct.1 a ha ⟨hb.1.trans hat.1.symm, hb.2.trans hat.2.symm⟩
      simp [hb.1, hb.2, hrest]
    · have hclaim : (b.descriptor.phase = p && b.eventType = t) = false := by
        simpa using hb
      simp [hb, hclaim]

/-! ## The member of a registration -/

section Build

variable (o : ObjectId) (name : String) (bindings : List Binding) (firstId : Nat)

@[simp] theorem length_handlers :
    (handlers o name bindings firstId).length = bindings.length := by
  simp [handlers]

theorem getElem?_handlers (i : Nat) :
    (handlers o name bindings firstId)[i]?
      = bindings[i]?.map fun b =>
          { id := firstId + i, observer := o, binding := i,
            descriptor := ⟨name, b.handler, b.phase, b.eventType⟩ } := by
  rw [handlers, List.getElem?_map, List.getElem?_zipIdx, Option.map_map, Nat.zero_add]
  rfl

theorem mem_handlers {b : BoundHandler} :
    b ∈ handlers o name bindings firstId ↔ ∃ i x, bindings[i]? = some x ∧
      b = { id := firstId + i, observer := o, binding := i,
            descriptor := ⟨name, x.handler, x.phase, x.eventType⟩ } := by
  rw [List.mem_iff_getElem?]
  constructor
  · rintro ⟨i, hi⟩
    rw [getElem?_handlers, Option.map_eq_some_iff] at hi
    obtain ⟨x, hx, rfl⟩ := hi
    exact ⟨i, x, hx, rfl⟩
  · rintro ⟨i, x, hx, rfl⟩
    exact ⟨i, by simp [getElem?_handlers, hx]⟩

variable {o name bindings firstId}

theorem mem_handlers_of_mem_bound_build {b : BoundHandler}
    (h : b ∈ (build o name bindings firstId).bound) : b ∈ handlers o name bindings firstId := by
  rcases mem_bound_foldl_bind h with h | h
  · exact h
  · exact absurd h List.not_mem_nil

/-- Handlers of one registration that claim the same place are the same. -/
theorem eq_of_mem_handlers
    (hdistinct : bindings.Pairwise fun a b => a.clashes b = false) {b b' : BoundHandler}
    (hb : b ∈ handlers o name bindings firstId) (hb' : b' ∈ handlers o name bindings firstId)
    (hphase : b.descriptor.phase = b'.descriptor.phase) (htype : b.eventType = b'.eventType) :
    b = b' := by
  obtain ⟨i, x, hx, rfl⟩ := (mem_handlers o name bindings firstId).1 hb
  obtain ⟨j, y, hy, rfl⟩ := (mem_handlers o name bindings firstId).1 hb'
  obtain ⟨hi, rfl⟩ := List.getElem?_eq_some_iff.1 hx
  obtain ⟨hj, rfl⟩ := List.getElem?_eq_some_iff.1 hy
  have hfalse (k l : Nat) (hk : k < bindings.length) (hl : l < bindings.length) (hlt : k < l)
      (hp : bindings[k].phase = bindings[l].phase)
      (ht : bindings[k].eventType = bindings[l].eventType) : False := by
    have := List.pairwise_iff_getElem.1 hdistinct k l hk hl hlt
    simp [Binding.clashes, hp, ht] at this
  -- Two bindings at different places would clash.
  rcases Nat.lt_trichotomy i j with hlt | rfl | hlt
  · exact (hfalse i j hi hj hlt hphase htype).elim
  · rfl
  · exact (hfalse j i hj hi hlt hphase.symm htype.symm).elim

theorem pairwise_handlers (hdistinct : bindings.Pairwise fun a b => a.clashes b = false) :
    (handlers o name bindings firstId).Pairwise fun a b =>
      ¬(a.descriptor.phase = b.descriptor.phase ∧ a.eventType = b.eventType) := by
  rw [List.pairwise_iff_getElem]
  rintro i j hi hj hlt ⟨hphase, htype⟩
  have heq := eq_of_mem_handlers hdistinct (List.getElem_mem hi) (List.getElem_mem hj) hphase htype
  have hindex (k : Nat) (hk : k < (handlers o name bindings firstId).length) :
      (handlers o name bindings firstId)[k].binding = k := by
    have h := getElem?_handlers o name bindings firstId k
    rw [List.getElem?_eq_getElem hk] at h
    obtain ⟨x, -, hx⟩ := Option.map_eq_some_iff.1 h.symm
    rw [← hx]
  have := congrArg BoundHandler.binding heq
  rw [hindex, hindex] at this
  omega

theorem find?_zipIdx_snd (q : Binding → Bool) (bs : List Binding) (n : Nat) :
    ((bs.zipIdx n).find? fun x => q x.1).map Prod.snd = (bs.findIdx? q).map (· + n) := by
  induction bs generalizing n with
  | nil => rfl
  | cons b rest ih =>
    rw [List.zipIdx_cons, List.find?_cons, List.findIdx?_cons]
    cases hq : q b with
    | true => simp
    | false =>
      simp only [ih, Option.map_map, Bool.false_eq_true, if_false]
      congr 1
      funext i
      simp only [Function.comp_apply]
      omega

/-- Looking up a type in a table is looking for the binding of that phase and type. -/
theorem find?_table_build (hdistinct : bindings.Pairwise fun a b => a.clashes b = false)
    (p : Phase) (t : EventType) :
    (((build o name bindings firstId).table p).find? t).map (·.binding)
      = bindings.findIdx? fun b => b.phase = p && b.eventType = t := by
  have hempty : (({ observer := o, observerType := name } : Member).table p).find? t = none := by
    cases p <;> rfl
  rw [build, find?_table_foldl_bind (pairwise_handlers hdistinct), hempty, Option.or_none, handlers,
    List.find?_map, Option.map_map]
  refine (find?_zipIdx_snd (fun b => b.phase = p && b.eventType = t) bindings 0).trans ?_
  simp

/-- The walk of a member comes to the first type that one of its bindings names. -/
theorem handler?_build (hdistinct : bindings.Pairwise fun a b => a.clashes b = false)
    (h : Hierarchy) (maxDepth : Nat) (p : Phase) (t : EventType) :
    ((build o name bindings firstId).handler? h maxDepth p t).map (·.binding)
      = Binding.choose? bindings p (h.ancestry maxDepth t) := by
  have hsearch : (build o name bindings firstId).handler? h maxDepth p t
      = (h.ancestry maxDepth t).findSome? ((build o name bindings firstId).table p).find? := by
    unfold handler?
    split
    · -- Without handlers for the phase the member does not walk, and a walk would find nothing.
      rename_i hempty
      have hnone (u : EventType) :
          ((build o name bindings firstId).table p).find? u = none := by
        rw [Assoc.find?, List.isEmpty_iff.1 hempty]
        rfl
      exact (List.findSome?_eq_none_iff.2 fun u _ => hnone u).symm
    · exact h.search_eq maxDepth t _
  rw [hsearch, Binding.choose?, List.map_findSome?]
  congr 1
  funext u
  exact find?_table_build hdistinct p u

end Build

end Member

end EventDispatch
