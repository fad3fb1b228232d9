import EventDispatch.Proofs.Delivery.Calls
import EventDispatch.Proofs.Event.Chain
import EventDispatch.Script.Play
import Mathlib.Data.List.Nodup
import Mathlib.Order.Defs.Unbundled

/-!
# Matching goes upwards

A handler is eligible for an event if it is bound to a type that the walk from the event's type
gives. On the types that a handler can be bound to, the walk is the whole chain
(`Hierarchy.Accepts.mem_ancestry_iff`), and a chain that ends holds no type twice, so being given by
the walk of a type is a partial order with the root on top, and the types above one type stand in
one line. No handler is therefore eligible for the events of a type if it is bound to a type below
it or beside it (`Hierarchy.matching_goes_upwards`).
-/

set_option autoImplicit false

namespace EventDispatch

namespace Hierarchy

variable {h : Hierarchy} {limit : Nat} {a b c t u : EventType}

/-! ## Types that a handler can be bound to -/

/-- Whether the chain of a type ends within the bound. -/
def Accepts (h : Hierarchy) (limit : Nat) (t : EventType) : Prop :=
  (h.chainLength? limit t).isSome = true

/-- The types whose chains end within the bound. -/
abbrev Accepted (h : Hierarchy) (limit : Nat) : Type := {t : EventType // h.Accepts limit t}

/-- Whether `u` stands properly below `t`. Everything else stands below the root. -/
def Descends (h : Hierarchy) (u t : EventType) : Prop :=
  u ≠ t ∧ (t = .any ∨ ∃ n, h.above? u n = some t)

/-- Whether `u` stands beside `t`, under the same declared parent or, like `t`, under none. -/
def Siblings (h : Hierarchy) (u t : EventType) : Prop :=
  u ≠ t ∧ u ≠ .any ∧ t ≠ .any ∧ h.parent? u = h.parent? t

theorem accepts_any : h.Accepts limit .any := rfl

theorem accepts_iff (ht : t ≠ .any) : h.Accepts limit t ↔ h.above? t limit = none := by
  rw [Accepts, Option.isSome_iff_ne_none, ne_eq, chainLength?_eq_none_iff ht, not_lt,
    above?_eq_none_iff]

/-- No declared chain comes to the root. -/
theorem above?_ne_any (ht : t ≠ .any) {n : Nat} (hu : h.above? t n = some u) : u ≠ .any := by
  cases n with
  | zero => exact Option.some.inj hu ▸ ht
  | succ n =>
    obtain ⟨v, -, hparent⟩ := Option.bind_eq_some_iff.1 hu
    exact h.parent?_ne_any hparent

/-- There is nothing above the root. -/
theorem eq_any_of_above?_any {n : Nat} (hu : h.above? .any n = some u) : u = .any := by
  cases n with
  | zero => exact (Option.some.inj hu).symm
  | succ n =>
    rw [above?_succ] at hu
    cases hu

/-- A type above one whose chain ends within the bound is such a type too. -/
theorem Accepts.above {n : Nat} (ha : h.Accepts limit a) (hb : h.above? a n = some b) :
    h.Accepts limit b := by
  by_cases hany : a = .any
  · subst hany
    rw [eq_any_of_above?_any hb]
    exact accepts_any
  · rw [accepts_iff (above?_ne_any hany hb)]
    rw [accepts_iff hany] at ha
    have hbeyond := h.above?_add a n limit
    rwa [above?_eq_none_of_le ha (Nat.le_add_left limit n), hb, Option.bind_some, eq_comm]
      at hbeyond

@[simp] theorem ancestry_any : h.ancestry limit .any = [.any] := rfl

/-- Every walk gives the root. -/
theorem any_mem_ancestry (t : EventType) : .any ∈ h.ancestry limit t := by
  by_cases ht : t = .any
  · rw [ht, ancestry_any]
    exact List.mem_singleton_self _
  · rw [ancestry_eq_lineage h limit ht, lineage]
    exact List.mem_append_right _ (List.mem_singleton_self _)

/-- The walk from a type whose chain ends within the bound gives the whole chain, and the root. -/
theorem Accepts.mem_ancestry_iff (ha : h.Accepts limit a) :
    b ∈ h.ancestry limit a ↔ b = .any ∨ ∃ n, h.above? a n = some b := by
  by_cases hany : a = .any
  · subst hany
    rw [ancestry_any, List.mem_singleton]
    constructor
    · exact .inl
    · rintro (hb | ⟨n, hn⟩)
      · exact hb
      · exact eq_any_of_above?_any hn
  · rw [ancestry_eq_lineage h limit hany, lineage, List.mem_append, List.mem_filterMap,
      List.mem_singleton, or_comm]
    apply or_congr_right
    constructor
    · rintro ⟨n, -, hn⟩
      exact ⟨n, hn⟩
    rintro ⟨n, hn⟩
    refine ⟨n, ?_, hn⟩
    -- Within the bound the chain has come to its end.
    rw [List.mem_range]
    by_contra hge
    rw [above?_eq_none_of_le ((accepts_iff hany).1 ha) (Nat.le_of_not_lt hge)] at hn
    cases hn

/-! ## The order -/

theorem Accepts.mem_ancestry_self (ha : h.Accepts limit a) : a ∈ h.ancestry limit a :=
  ha.mem_ancestry_iff.2 (.inr ⟨0, rfl⟩)

theorem Accepts.of_mem_ancestry (ha : h.Accepts limit a) (hb : b ∈ h.ancestry limit a) :
    h.Accepts limit b := by
  rcases ha.mem_ancestry_iff.1 hb with rfl | ⟨n, hn⟩
  · exact accepts_any
  · exact ha.above hn

theorem Accepts.mem_ancestry_trans (ha : h.Accepts limit a) (hb : b ∈ h.ancestry limit a)
    (hc : c ∈ h.ancestry limit b) : c ∈ h.ancestry limit a := by
  rw [(ha.of_mem_ancestry hb).mem_ancestry_iff] at hc
  rw [ha.mem_ancestry_iff] at hb ⊢
  rcases hc with rfl | ⟨k, hk⟩
  · exact .inl rfl
  · rcases hb with rfl | ⟨n, hn⟩
    · exact .inl (eq_any_of_above?_any hk)
    · exact .inr ⟨n + k, by rw [above?_add, hn, Option.bind_some, hk]⟩

/-- Of two types at most one stands properly above the other. -/
theorem Accepts.mem_ancestry_antisymm (ha : h.Accepts limit a) (hb : b ∈ h.ancestry limit a)
    (hab : a ∈ h.ancestry limit b) : a = b := by
  by_cases hany : a = .any
  · rw [hany, ancestry_any, List.mem_singleton] at hb
    rw [hany, hb]
  · rcases ha.mem_ancestry_iff.1 hb with rfl | ⟨n, hn⟩
    · exact List.mem_singleton.1 hab
    · rcases (ha.of_mem_ancestry hb).mem_ancestry_iff.1 hab with heq | ⟨k, hk⟩
      · exact absurd heq hany
      · -- The chain of `a` comes back to `a`, so no step of it has been taken.
        have hcycle : h.above? a (n + k) = some a := by rw [above?_add, hn, Option.bind_some, hk]
        have hzero : n + k = 0 := above?_inj ((accepts_iff hany).1 ha) hcycle rfl
        rw [(Nat.add_eq_zero_iff.1 hzero).1] at hn
        exact Option.some.inj hn

/-- The types above one type stand in one line. -/
theorem Accepts.mem_ancestry_total (ha : h.Accepts limit a) (hb : b ∈ h.ancestry limit a)
    (hc : c ∈ h.ancestry limit a) : c ∈ h.ancestry limit b ∨ b ∈ h.ancestry limit c := by
  rw [(ha.of_mem_ancestry hb).mem_ancestry_iff, (ha.of_mem_ancestry hc).mem_ancestry_iff]
  rw [ha.mem_ancestry_iff] at hb hc
  rcases hb with rfl | ⟨n, hn⟩
  · exact .inr (.inl rfl)
  · rcases hc with rfl | ⟨k, hk⟩
    · exact .inl (.inl rfl)
    · rcases Nat.le_total n k with hle | hle
      · obtain ⟨j, rfl⟩ := Nat.exists_eq_add_of_le hle
        rw [above?_add, hn, Option.bind_some] at hk
        exact .inl (.inr ⟨j, hk⟩)
      · obtain ⟨j, rfl⟩ := Nat.exists_eq_add_of_le hle
        rw [above?_add, hk, Option.bind_some] at hn
        exact .inr (.inr ⟨j, hn⟩)

/-- The walk gives no type twice. -/
theorem Accepts.nodup_ancestry (ha : h.Accepts limit a) : (h.ancestry limit a).Nodup := by
  by_cases hany : a = .any
  · rw [hany, ancestry_any]
    exact List.nodup_singleton _
  · have hends := (accepts_iff hany).1 ha
    rw [ancestry_eq_lineage h limit hany, lineage, List.nodup_append]
    refine ⟨?_, List.nodup_singleton _, ?_⟩
    · refine List.Pairwise.filterMap _ ?_ List.nodup_range
      rintro n k hne b hn c hk rfl
      exact hne (above?_inj hends hn hk)
    · intro b hb c hc
      obtain ⟨n, -, hn⟩ := List.mem_filterMap.1 hb
      rw [List.mem_singleton.1 hc]
      exact above?_ne_any hany hn

/-! ## What is not above -/

/-- A type that stands properly below another does not stand above it. -/
theorem Accepts.not_mem_of_descends (ha : h.Accepts limit a) (hu : h.Descends u a) :
    u ∉ h.ancestry limit a := by
  intro hmem
  refine hu.1 (ha.mem_ancestry_antisymm hmem ?_).symm
  rw [(ha.of_mem_ancestry hmem).mem_ancestry_iff]
  exact hu.2

/-- A type that stands beside another does not stand above it. -/
theorem Accepts.not_mem_of_siblings (ha : h.Accepts limit a) (hu : h.Siblings u a) :
    u ∉ h.ancestry limit a := by
  obtain ⟨hne, hany, haany, hparent⟩ := hu
  intro hmem
  obtain ⟨n, hn⟩ := (ha.mem_ancestry_iff.1 hmem).resolve_left hany
  cases n with
  | zero => exact hne (Option.some.inj hn).symm
  | succ n =>
    rw [above?_succ] at hn
    obtain ⟨p, hp, hup⟩ := Option.bind_eq_some_iff.1 hn
    -- The parent of the two would stand both above `u` and below it.
    have hpa : h.above? a 1 = some p := by rw [above?_succ, hp, Option.bind_some, above?]
    have hpu : h.above? u 1 = some p := by
      rw [above?_succ, hparent, hp, Option.bind_some, above?]
    have hcycle : h.above? p (n + 1) = some p := by
      rw [above?_add, hup, Option.bind_some, hpu]
    have hends := (accepts_iff (above?_ne_any haany hpa)).1 (ha.above hpa)
    exact Nat.succ_ne_zero n (above?_inj hends hcycle rfl)

end Hierarchy

/-- On the types whose chains end within the bound, to be given by the walk of a type is a partial
order: the root is on top, what is above such a type is such a type, any two types above one type
stand above each other one way or the other, and no walk gives a type twice. To belong to a type is
this relation, and a plan holds handlers of types in this relation to the type of the event only. So
neither holds of a type properly below the event's type or beside it. -/
theorem Hierarchy.matching_goes_upwards (h : Hierarchy) (limit : Nat) :
    IsPartialOrder (h.Accepted limit) (fun a b => b.1 ∈ h.ancestry limit a.1) ∧
    h.Accepts limit .any ∧ (∀ a, .any ∈ h.ancestry limit a) ∧
    (∀ a, h.Accepts limit a →
      (∀ b ∈ h.ancestry limit a, h.Accepts limit b) ∧
      (∀ b ∈ h.ancestry limit a, ∀ c ∈ h.ancestry limit a,
        c ∈ h.ancestry limit b ∨ b ∈ h.ancestry limit c) ∧
      (h.ancestry limit a).Nodup ∧
      ∀ u, h.Descends u a ∨ h.Siblings u a → h.isA limit a u = false) ∧
    (∀ a b, h.isA limit a b = true ↔ b ∈ h.ancestry limit a) ∧
    ∀ (ν : Type) (app : Application ν) (s : State ν) (scope : Scope), Reachable app s →
      app.hierarchy = h → app.maxDepth scope.manager = limit →
      ∀ t, ∀ b ∈ (s.world.resolve app scope t).1.toList, b.eventType ∈ h.ancestry limit t ∧
        (h.Accepts limit t → ¬ h.Descends b.eventType t ∧ ¬ h.Siblings b.eventType t) := by
  have hbelong {a u : EventType} (ha : h.Accepts limit a)
      (hu : h.Descends u a ∨ h.Siblings u a) : u ∉ h.ancestry limit a :=
    hu.elim ha.not_mem_of_descends ha.not_mem_of_siblings
  refine ⟨?_, accepts_any, ?_, ?_, fun a b => h.isA_iff, ?_⟩
  · exact
      { refl := fun a => a.2.mem_ancestry_self
        trans := fun a b c hb hc => a.2.mem_ancestry_trans hb hc
        antisymm := fun a b hb ha => Subtype.ext (a.2.mem_ancestry_antisymm hb ha) }
  · exact any_mem_ancestry
  · intro a ha
    refine ⟨fun b => ha.of_mem_ancestry, fun b hb c => ha.mem_ancestry_total hb,
      ha.nodup_ancestry, ?_⟩
    intro u hu
    rw [← Bool.not_eq_true, isA_iff]
    exact hbelong ha hu
  · rintro ν app s scope hs rfl rfl t b hb
    rw [hs.sound.resolve_eq] at hb
    have hmem := (isA_iff _).1 ((hs.sound _).isA_of_mem_currentPlan hb)
    refine ⟨hmem, fun ht => ⟨?_, ?_⟩⟩
    · exact fun hbelow => hbelong ht (.inl hbelow) hmem
    · exact fun hbeside => hbelong ht (.inr hbeside) hmem

/-- Four types, two of them with the first as their parent and one below these, and an observer of
each. -/
def kinship : Script.Cast where
  hierarchy :=
    ⟨fun i => if i = 1 ∨ i = 2 then some (.custom 0) else if i = 3 then some (.custom 1) else none⟩
  names := ⟨fun _ => "Event", fun _ => .labelled "Event"⟩
  managers := [{ maxDepth := 3 }]
  roles := [
    some ⟨"Parent", false, [⟨⟨.invoke, .custom 0, "hear"⟩, false, []⟩]⟩,
    some ⟨"Self", false, [⟨⟨.invoke, .custom 1, "hear"⟩, false, []⟩]⟩,
    some ⟨"Sibling", false, [⟨⟨.invoke, .custom 2, "hear"⟩, false, []⟩]⟩,
    some ⟨"Child", false, [⟨⟨.invoke, .custom 3, "hear"⟩, false, []⟩]⟩]

/-- The state in which an event of the second type is about to be dispatched to them. -/
def kinshipState : State Script.Note :=
  (State.start (World.after kinship.application 40 {} ((List.range 4).map fun o =>
      { operation := .add o })) { operation := .fire (.extending 1 "" (.plain 0 "")) }).steps
    kinship.application 2

/-- Each of the observers is registered, and the event goes to those of its own type and of the type
above it. -/
theorem kinship_reaches_own_type_and_parent :
    (kinshipState.world.manager 0).registry.objects = [0, 1, 2, 3] ∧
      (kinshipState.world.resolve kinship.application ⟨0, 0⟩ (.custom 1)).1.toList.map
        (·.observer) = [0, 1] ∧
      (∀ b ∈ (kinshipState.world.resolve kinship.application ⟨0, 0⟩ (.custom 1)).1.toList,
        b.eventType ≠ .custom 2 ∧ b.eventType ≠ .custom 3) ∧
      (kinship.hierarchy.ancestry 3 (.custom 3)).Nodup := by
  obtain ⟨-, -, -, haccepted, -, hplan⟩ := Hierarchy.matching_goes_upwards kinship.hierarchy 3
  have hs : Reachable kinship.application kinshipState :=
    (Reachable.after _ (fun _ => .start _) (by decide +kernel)).steps 2
  refine ⟨by decide +kernel, by decide +kernel, ?_, (haccepted (.custom 3) rfl).2.2.1⟩
  intro b hb
  obtain ⟨hbelow, hbeside⟩ := (hplan _ _ kinshipState ⟨0, 0⟩ hs rfl rfl _ b hb).2 rfl
  refine ⟨?_, ?_⟩
  · intro htype
    rw [htype] at hbeside
    exact hbeside ⟨by decide, by decide, by decide, rfl⟩
  · intro htype
    rw [htype] at hbelow
    exact hbelow ⟨by decide, .inr ⟨1, rfl⟩⟩

end EventDispatch
