import EventDispatch.Proofs.Registry.Admission
import EventDispatch.Proofs.Registry.Coherence

/-!
# Registries that differ in numbers

Two registries mirror each other if they come of the same registrations and differ only in the
numbers that their handlers have been given. What a registry says of objects, and the plans that it
gives, are then the same up to these numbers (`Registry.Mirrors.toList_plan`). Numbers that have not
been given yet can be matched anew at any time (`matched_injective`, `Registry.Mirrors.mono`).
-/

set_option autoImplicit false

namespace EventDispatch

/-- The handler under another number. -/
def BoundHandler.renumber (f : Nat → Nat) (b : BoundHandler) : BoundHandler :=
  { b with id := f b.id }

@[simp] theorem BoundHandler.eventType_renumber (f : Nat → Nat) (b : BoundHandler) :
    (b.renumber f).eventType = b.eventType := rfl

/-! ## Members -/

namespace Member

variable {o : ObjectId} {name : String} {bindings : List Binding} {n n' : Nat} {f : Nat → Nat}

@[simp] theorem observerType_build (o : ObjectId) (name : String) (bindings : List Binding)
    (firstId : Nat) : (build o name bindings firstId).observerType = name := by
  refine foldl_bind_eq (fun m b => ?_) _ _
  cases hp : b.descriptor.phase <;> simp [bind, hp]

/-- The same bindings numbered from another number on. -/
theorem handlers_renumber (hf : ∀ i < bindings.length, f (n' + i) = n + i) :
    handlers o name bindings n = (handlers o name bindings n').map (.renumber f) := by
  apply List.ext_getElem?
  intro i
  rw [List.getElem?_map, getElem?_handlers, getElem?_handlers, Option.map_map]
  cases hb : bindings[i]? with
  | none => rfl
  | some b =>
    obtain ⟨hi, -⟩ := List.getElem?_eq_some_iff.1 hb
    simp [BoundHandler.renumber, hf i hi]

/-- The walk of a member comes to one of the handlers of its registration. -/
theorem handler?_build_eq_bind (hdistinct : (bindings.map Binding.claim).Nodup) (h : Hierarchy)
    (maxDepth : Nat) (p : Phase) (t : EventType) :
    (build o name bindings n).handler? h maxDepth p t
      = (Binding.choose? bindings p (h.ancestry maxDepth t)).bind fun i =>
          (handlers o name bindings n)[i]? := by
  have hchoice : ((build o name bindings n).handler? h maxDepth p t).map (·.binding)
      = Binding.choose? bindings p (h.ancestry maxDepth t) :=
    handler?_build (Binding.pairwise_clashes_iff.2 hdistinct) h maxDepth p t
  rw [← hchoice]
  cases hb : (build o name bindings n).handler? h maxDepth p t with
  | none => rfl
  | some b =>
    obtain ⟨i, x, hx, rfl⟩ := (mem_handlers ..).1
      (mem_handlers_of_mem_bound_build (mem_bound_of_handler? hb))
    simp [getElem?_handlers, hx]

theorem handler?_build_renumber (hdistinct : (bindings.map Binding.claim).Nodup)
    (hf : ∀ i < bindings.length, f (n' + i) = n + i) (h : Hierarchy) (maxDepth : Nat) (p : Phase)
    (t : EventType) :
    (build o name bindings n).handler? h maxDepth p t
      = ((build o name bindings n').handler? h maxDepth p t).map (.renumber f) := by
  rw [handler?_build_eq_bind hdistinct, handler?_build_eq_bind hdistinct, Option.map_bind,
    handlers_renumber hf]
  congr 1
  funext i
  rw [List.getElem?_map]
  rfl

/-- The sizes of the tables do not depend on the numbers. -/
theorem size_table_build (o : ObjectId) (name : String)
    (hdistinct : (bindings.map Binding.claim).Nodup)
    (hf : ∀ i < bindings.length, f (n' + i) = n + i) (p : Phase) :
    ((build o name bindings n).table p).size = ((build o name bindings n').table p).size := by
  rw [Assoc.size, Assoc.size, entries_table_build hdistinct, entries_table_build hdistinct,
    handlers_renumber hf, tabled, tabled, List.filter_map, List.length_map, List.length_map,
    List.length_map]
  rfl

end Member

/-! ## Registries -/

/-- A registration that two registries have in common: the object, its observer type and bindings,
and the numbers from which on its handlers are numbered in the one registry and in the other. -/
structure Enrolment where
  object : ObjectId
  name : String
  bindings : List Binding
  first : Nat
  first' : Nat

namespace Enrolment

/-- The member that the registration has made in the one registry. -/
def member (e : Enrolment) : Member := .build e.object e.name e.bindings e.first

/-- The member that the registration has made in the other registry. -/
def member' (e : Enrolment) : Member := .build e.object e.name e.bindings e.first'

/-- The bindings do not clash, and `f` takes the numbers in the other registry, all of them below a
limit, to those in the one. -/
structure Matches (f : Nat → Nat) (limit : Nat) (e : Enrolment) : Prop where
  distinct : (e.bindings.map Binding.claim).Nodup
  below : e.first' + e.bindings.length ≤ limit
  shift : ∀ i < e.bindings.length, f (e.first' + i) = e.first + i

end Enrolment

namespace Registry

/-- Two registries come of the same registrations, and `f` takes the numbers in the second one to
those in the first. -/
def Mirrors (f : Nat → Nat) (limit : Nat) (r r' : Registry) : Prop :=
  ∃ es : List Enrolment, (∀ e ∈ es, e.Matches f limit) ∧ r = es.map (·.member) ∧
    r' = es.map (·.member')

namespace Mirrors

variable {f g : Nat → Nat} {limit limit' : Nat} {r r' : Registry}

theorem nil : Mirrors f limit [] [] := ⟨[], List.forall_mem_nil _, rfl, rfl⟩

/-- Only the numbers below the limit count. -/
theorem mono (h : Mirrors f limit r r') (hle : limit ≤ limit') (hfg : ∀ i < limit, f i = g i) :
    Mirrors g limit' r r' := by
  obtain ⟨es, hes, rfl, rfl⟩ := h
  refine ⟨es, ?_, rfl, rfl⟩
  intro e he
  obtain ⟨hdistinct, hbelow, hshift⟩ := hes e he
  refine ⟨hdistinct, Nat.le_trans hbelow hle, ?_⟩
  intro i hi
  rw [← hfg _ (by omega), hshift i hi]

/-- Registries that do not differ in numbers do not differ. -/
theorem eq_of_id (h : Mirrors id limit r r') : r = r' := by
  obtain ⟨es, hes, rfl, rfl⟩ := h
  refine List.map_congr_left fun e he => ?_
  have hnumbers : Member.handlers e.object e.name e.bindings e.first
      = (Member.handlers e.object e.name e.bindings e.first').map (.renumber id) :=
    Member.handlers_renumber (hes e he).shift
  rw [show BoundHandler.renumber id = id from rfl, List.map_id] at hnumbers
  rw [Enrolment.member, Enrolment.member', Member.build, Member.build, hnumbers]

theorem objects_eq (h : Mirrors f limit r r') : r.objects = r'.objects := by
  obtain ⟨es, -, rfl, rfl⟩ := h
  simp [objects, Enrolment.member, Enrolment.member', Function.comp_def]

theorem holds_eq (h : Mirrors f limit r r') (o : ObjectId) : r.holds o = r'.holds o := by
  rw [Bool.eq_iff_iff, holds_iff, holds_iff, h.objects_eq]

/-- The same objects are of the same observer types. -/
theorem member?_eq (h : Mirrors f limit r r') (o : ObjectId) :
    (r.member? o).map (·.observerType) = (r'.member? o).map (·.observerType) := by
  obtain ⟨es, -, rfl, rfl⟩ := h
  simp [member?, List.find?_map, Function.comp_def, Enrolment.member, Enrolment.member']

theorem append (h : Mirrors f limit r r') (o : ObjectId) (name : String) {bindings : List Binding}
    {n n' : Nat} (hlimit : limit ≤ n') (hdistinct : (bindings.map Binding.claim).Nodup)
    (hshift : ∀ i < bindings.length, f (n' + i) = n + i) :
    Mirrors f (n' + bindings.length) (r ++ [.build o name bindings n])
      (r' ++ [.build o name bindings n']) := by
  have hmono : Mirrors f (n' + bindings.length) r r' :=
    h.mono (Nat.le_add_right_of_le hlimit) fun _ _ => rfl
  obtain ⟨es, hes, rfl, rfl⟩ := hmono
  refine ⟨es ++ [⟨o, name, bindings, n, n'⟩], ?_, by simp [Enrolment.member],
    by simp [Enrolment.member']⟩
  intro e he
  rcases List.mem_append.1 he with hold | hlast
  · exact hes e hold
  · rw [List.mem_singleton.1 hlast]
    exact ⟨hdistinct, Nat.le_refl _, hshift⟩

theorem without (h : Mirrors f limit r r') (o : ObjectId) :
    Mirrors f limit (r.without o) (r'.without o) := by
  obtain ⟨es, hes, rfl, rfl⟩ := h
  refine ⟨es.eraseP (·.object = o), fun e he => hes e (List.mem_of_mem_eraseP he), ?_, ?_⟩
  · simp [Registry.without, List.eraseP_map, Function.comp_def, Enrolment.member]
  · simp [Registry.without, List.eraseP_map, Function.comp_def, Enrolment.member']

/-- The members contribute the same handlers under other numbers. -/
theorem eligible_eq (h : Mirrors f limit r r') (hierarchy : Hierarchy) (maxDepth : Nat)
    (t : EventType) (p : Phase) :
    Plan.eligible hierarchy maxDepth r t p
      = (Plan.eligible hierarchy maxDepth r' t p).map (.renumber f) := by
  obtain ⟨es, hes, rfl, rfl⟩ := h
  rw [Plan.eligible, Plan.eligible, List.filterMap_map, List.filterMap_map, List.map_filterMap]
  apply List.filterMap_congr
  intro e he
  exact Member.handler?_build_renumber (hes e he).distinct (hes e he).shift hierarchy maxDepth p t

/-- The plans are the same up to the numbers. -/
theorem toList_plan (h : Mirrors f limit r r') (hierarchy : Hierarchy) (maxDepth : Nat)
    (t : EventType) :
    (Plan.build hierarchy maxDepth r t).toList
      = (Plan.build hierarchy maxDepth r' t).toList.map (.renumber f) := by
  rw [Plan.toList_build, Plan.toList_build, List.map_flatMap]
  exact List.flatMap_congr fun p _ => h.eligible_eq hierarchy maxDepth t p

end Mirrors

end Registry

/-! ## Matching numbers anew -/

/-- The numbers from `limit` on are taken to those from `next` on, the numbers below as before. -/
def matched (f : Nat → Nat) (limit next : Nat) (i : Nat) : Nat :=
  if i < limit then f i else next + (i - limit)

section Matched

variable {f : Nat → Nat} {limit next : Nat}

theorem matched_of_lt {i : Nat} (hi : i < limit) : matched f limit next i = f i := if_pos hi

theorem matched_add (k : Nat) : matched f limit next (limit + k) = next + k := by
  rw [matched, if_neg (by omega)]
  omega

/-- Numbers stay different if the numbers from `limit` on have been taken to consecutive ones
before, and these start no higher than `next`. -/
theorem matched_injective {first : Nat} (hf : Function.Injective f)
    (hshift : ∀ k, f (limit + k) = first + k) (hle : first ≤ next) :
    Function.Injective (matched f limit next) := by
  -- All numbers from `first` on have come of numbers from the limit on.
  have hlow {i : Nat} (hi : i < limit) : f i < first := by
    apply Nat.lt_of_not_le
    intro hhigh
    have heq : f i = f (limit + (f i - first)) := by
      rw [hshift]
      omega
    have := hf heq
    omega
  intro i j hij
  unfold matched at hij
  split at hij <;> split at hij
  · exact hf hij
  · rename_i hi hj
    have := hlow hi
    omega
  · rename_i hi hj
    have := hlow hj
    omega
  · omega

end Matched

end EventDispatch
