import EventDispatch.Proofs.Settings.Value

/-!
# Settings in a mapping

The content of a mapping gives scalars for fields, and may have other keys with any nodes under them
(`Entries`). If each of these scalars states a value for its field and no field comes twice, they
set fields (`Sets`), and the mapping is read as these, in whatever order they come
(`ofDocument_of_sets`). Whatever a document is read as, its depth fits into 64 bits
(`maxDepth_lt_of_ofDocument`).
-/

set_option autoImplicit false

namespace EventDispatch

open EventDispatch.Yaml

namespace Yaml

/-! ## Nodes -/

/-- The start and the end of a collection. -/
inductive Encloses : Content → Content → Prop where
  | sequence : Encloses .sequenceStart .sequenceEnd
  | mapping : Encloses .mappingStart .mappingEnd

/-- A row of `n` nodes: scalars, aliases, and collections of nodes. -/
inductive Nodes : Nat → List Content → Prop where
  | nil : Nodes 0 []
  | scalar (value : Scalar) {n : Nat} {rest : List Content} (hrest : Nodes n rest) :
      Nodes (n + 1) (.scalar value :: rest)
  | reference (number : Nat) {n : Nat} {rest : List Content} (hrest : Nodes n rest) :
      Nodes (n + 1) (.alias number :: rest)
  | collection {first last : Content} {k n : Nat} {inner rest : List Content}
      (hkind : Encloses first last) (hinner : Nodes k inner) (hrest : Nodes n rest) :
      Nodes (n + 1) (first :: (inner ++ last :: rest))

end Yaml

namespace Settings

/-! ## Entries and the fields that they set -/

/-- The content of a mapping between its start and its end, with the scalars that it gives for
fields, in order. Under other keys stand any nodes. -/
inductive Entries (d : Document) : List (Key × Scalar) → List Content → Prop where
  | nil : Entries d [] []
  | field {k v : Content} {name value : Scalar} {key : Key} {row : List (Key × Scalar)}
      {rest : List Content} (hname : d.scalar? k = some name)
      (hkey : Key.ofName? name.text = some key) (hvalue : d.scalar? v = some value)
      (hrest : Entries d row rest) :
      Entries d ((key, value) :: row) (k :: v :: rest)
  | other {k : Content} {node : List Content} {name : Scalar} {row : List (Key × Scalar)}
      {rest : List Content} (hname : d.scalar? k = some name)
      (hkey : Key.ofName? name.text = none) (hnode : Nodes 1 node) (hrest : Entries d row rest) :
      Entries d row (k :: (node ++ rest))

/-- The fields that a row of scalars sets, each to the value that the scalar states. No field is set
twice. -/
inductive Sets : List (Key × Scalar) → Fields → Prop where
  | nil : Sets [] {}
  | maxDepth {value : Scalar} {n : Nat} {row : List (Key × Scalar)} {f : Fields}
      (hvalue : scalarNumber? value = some n) (hnew : f.maxDepth = none) (hrow : Sets row f) :
      Sets ((.maxDepth, value) :: row) { f with maxDepth := some n }
  | containPanics {value : Scalar} {b : Bool} {row : List (Key × Scalar)} {f : Fields}
      (hvalue : scalarTruth? value = some b) (hnew : f.containPanics = none) (hrow : Sets row f) :
      Sets ((.containPanics, value) :: row) { f with containPanics := some b }

/-! ## Reading a mapping -/

namespace Fields

variable {d : Document}

/-- Inside a collection nodes are passed over. -/
theorem read_nodes {n : Nat} {nodes : List Content} (h : Nodes n nodes) (f : Fields) (depth : Nat)
    (rest : List Content) :
    read d f (.inside (depth + 1)) (nodes ++ rest) = read d f (.inside (depth + 1)) rest := by
  induction h generalizing depth rest with
  | nil => rfl
  | scalar value hrest ih => exact ih depth rest
  | reference number hrest ih => exact ih depth rest
  | @collection first last k n inner more hkind hinner hrest ihinner ihrest =>
    have hinside := ihinner (depth + 1) (last :: (more ++ rest))
    have hrow : first :: (inner ++ last :: more) ++ rest
        = first :: (inner ++ last :: (more ++ rest)) := by simp
    rw [hrow, ← ihrest depth rest]
    cases hkind <;> exact hinside

/-- The node under an unknown key is passed over. -/
theorem read_unused {node : List Content} (h : Nodes 1 node) (f : Fields) (rest : List Content) :
    read d f .unused (node ++ rest) = read d f .key rest := by
  cases h with
  | scalar value hrest =>
    cases hrest
    rfl
  | reference number hrest =>
    cases hrest
    rfl
  | @collection first last k n inner more hkind hinner hrest =>
    cases hrest
    have hinside := read_nodes (d := d) hinner f 0 (last :: rest)
    rw [List.cons_append, List.append_assoc]
    cases hkind <;> exact hinside

section Key

variable {k : Content} {name : Scalar} (hname : d.scalar? k = some name)
include hname

theorem ne_mappingEnd : k ≠ .mappingEnd := by
  rintro rfl
  cases hname

theorem read_known {key : Key} (hkey : Key.ofName? name.text = some key) (f : Fields)
    (rest : List Content) : read d f .key (k :: rest) = read d f (.value key) rest := by
  rw [read, if_neg (ne_mappingEnd hname)]
  simp only [hname, hkey]

theorem read_unknown (hkey : Key.ofName? name.text = none) (f : Fields) (rest : List Content) :
    read d f .key (k :: rest) = read d f .unused rest := by
  rw [read, if_neg (ne_mappingEnd hname)]
  simp only [hname, hkey]

end Key

/-- A mapping sets the fields of its entries one after the other. -/
theorem read_entries {row : List (Key × Scalar)} {content : List Content}
    (h : Entries d row content) (f : Fields) (rest : List Content) :
    read d f .key (content ++ .mappingEnd :: rest)
      = row.foldlM (fun f entry => f.set entry.2 entry.1) f := by
  induction h generalizing f with
  | nil => rfl
  | @field k v name value key row content hname hkey hvalue hrest ih =>
    rw [List.cons_append, read_known hname hkey, List.cons_append, read, hvalue, List.foldlM_cons]
    dsimp only
    cases f.set value key with
    | error e => rfl
    | ok g => exact ih g
  | @other k node name row content hname hkey hnode hrest ih =>
    rw [List.cons_append, read_unknown hname hkey, List.append_assoc, read_unused hnode]
    exact ih f

/-- These fields, and those of another row for what is left out. -/
def or (f g : Fields) : Fields where
  maxDepth := f.maxDepth.or g.maxDepth
  containPanics := f.containPanics.or g.containPanics

theorem or_empty (f : Fields) : f.or {} = f := by simp [or]

theorem empty_or (f : Fields) : or {} f = f := rfl

end Fields

/-- A row sets its fields beside those that are set already, if these are others. -/
theorem Sets.foldlM_set {row : List (Key × Scalar)} {f : Fields} (h : Sets row f) {g : Fields}
    (hdepth : g.maxDepth = none ∨ f.maxDepth = none)
    (hpanics : g.containPanics = none ∨ f.containPanics = none) :
    row.foldlM (fun f entry => f.set entry.2 entry.1) g = .ok (g.or f) := by
  induction h generalizing g with
  | nil => exact congrArg Except.ok g.or_empty.symm
  | @maxDepth value n row f hvalue hnew hrow ih =>
    have hnone : g.maxDepth = none := by simpa using hdepth
    have hset : g.set value .maxDepth = .ok { g with maxDepth := some n } := by
      rw [Fields.set, hnone, hvalue]
    rw [List.foldlM_cons, hset]
    have hrest := ih (g := { g with maxDepth := some n }) (.inr hnew) hpanics
    refine hrest.trans ?_
    simp [Fields.or, hnone]
  | @containPanics value b row f hvalue hnew hrow ih =>
    have hnone : g.containPanics = none := by simpa using hpanics
    have hset : g.set value .containPanics = .ok { g with containPanics := some b } := by
      rw [Fields.set, hnone, hvalue]
    rw [List.foldlM_cons, hset]
    have hrest := ih (g := { g with containPanics := some b }) hdepth (.inr hnew)
    refine hrest.trans ?_
    simp [Fields.or, hnone]

/-- A mapping whose entries set fields states the settings of these fields. -/
theorem ofDocument_of_sets {d : Document} {content : List Content} {row : List (Key × Scalar)}
    {f : Fields} (hd : d.content = .mappingStart :: (content ++ [.mappingEnd]))
    (hentries : Entries d row content) (hsets : Sets row f) : ofDocument d = .ok f.settings := by
  have hread : Fields.read d {} .key (content ++ [.mappingEnd]) = .ok f := by
    rw [Fields.read_entries hentries, hsets.foldlM_set (.inl rfl) (.inl rfl), Fields.empty_or]
  rw [ofDocument, hd]
  change (Fields.read d {} .key (content ++ [.mappingEnd]) >>= _) = _
  rw [hread]
  rfl

/-! ## Depths of 64 bits -/

namespace Fields

/-- The depth that is set fits into 64 bits. -/
def Fits (f : Fields) : Prop := ∀ n ∈ f.maxDepth, n < UInt64.size

theorem Fits.set {f g : Fields} {value : Scalar} {key : Key} (h : f.Fits)
    (hg : f.set value key = .ok g) : g.Fits := by
  cases key with
  | maxDepth =>
    rw [Fields.set] at hg
    split at hg
    · rename_i n _ hvalue
      cases hg
      intro n hn
      cases hn
      exact wholeNumber?_lt (scalarNumber?_eq_some hvalue)
    · cases hg
  | containPanics =>
    rw [Fields.set] at hg
    split at hg
    · cases hg
      exact h
    · cases hg

theorem Fits.read {d : Document} {f g : Fields} {place : Place} {content : List Content}
    (h : f.Fits) (hg : Fields.read d f place content = .ok g) : g.Fits := by
  induction content generalizing f place with
  | nil =>
    cases hg
    exact h
  | cons c rest ih =>
    cases place with
    | key =>
      rw [Fields.read] at hg
      split at hg
      · cases hg
        exact h
      · split at hg
        · cases hg
        · split at hg
          · exact ih h hg
          · exact ih h hg
    | value key =>
      rw [Fields.read] at hg
      split at hg
      · cases hg
      · obtain ⟨f', hset, hg⟩ := exists_of_bind_eq_ok hg
        exact ih (h.set hset) hg
    | unused => exact ih h hg
    | inside depth => exact ih h hg

theorem maxDepth_settings_eq_zero {f : Fields} (h : f.settings.maxDepth = 0) :
    f.maxDepth = some 0 := by
  obtain ⟨maxDepth, containPanics⟩ := f
  cases maxDepth with
  | none => cases h
  | some n => exact congrArg some h

theorem Fits.settings {f : Fields} (h : f.Fits) : f.settings.maxDepth < UInt64.size := by
  obtain ⟨maxDepth, containPanics⟩ := f
  cases maxDepth with
  | none => exact (by decide : 32 < UInt64.size)
  | some n => exact h n rfl

end Fields

/-- The depth that a document states fits into 64 bits. -/
theorem maxDepth_lt_of_ofDocument {d : Document} {s : Settings} (h : ofDocument d = .ok s) :
    s.maxDepth < UInt64.size := by
  rw [ofDocument] at h
  split at h
  · cases h
    exact (by decide : 32 < UInt64.size)
  · split at h
    · cases h
      exact (by decide : 32 < UInt64.size)
    · cases h
  · obtain ⟨f, hread, hs⟩ := exists_of_bind_eq_ok h
    cases hs
    have hstart : Fields.Fits {} := by simp [Fields.Fits]
    exact (hstart.read hread).settings
  · cases h

end Settings

end EventDispatch
