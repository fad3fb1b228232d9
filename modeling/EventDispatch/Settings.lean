import EventDispatch.Text

/-!
# Settings of a manager

A manager has two settings: the depth bound on walks up the chain of an event type, and whether the
panics of handlers are contained. A bound of zero is refused.
-/

set_option autoImplicit false

namespace EventDispatch

/-- The settings of a manager. -/
structure Settings where
  /-- The longest chain that an event type may have, the type itself included. -/
  maxDepth : Nat := 32
  /-- Whether panics of handlers are contained and reported like returned errors. -/
  containPanics : Bool := true
  deriving DecidableEq, Repr, Inhabited

namespace Settings

/-- Why settings are refused. -/
structure Invalid where
  message : String
  deriving DecidableEq, Repr, Inhabited

/-- The message of a refusal of settings. -/
def Invalid.text (e : Invalid) : String := "Invalid observer configuration: " ++ e.message

/-- The detailed text of a refusal of settings. -/
def Invalid.detail (e : Invalid) : String := Text.tuple "Config" [Text.quote e.message]

/-- The refusal of a depth bound of zero. -/
def Invalid.zeroDepth : Invalid := ⟨"max_hierarchy_depth must be at least 1"⟩

/-- Refuses a depth bound of zero. -/
def validate (s : Settings) : Except Invalid Unit :=
  if s.maxDepth = 0 then .error .zeroDepth else .ok ()

theorem validate_eq_ok_iff {s : Settings} : s.validate = .ok () ↔ 0 < s.maxDepth := by
  unfold validate
  split
  · rename_i hzero
    simp [hzero]
  · rename_i hdepth
    exact iff_of_true rfl (Nat.pos_of_ne_zero hdepth)

/-- The detailed text of settings. -/
def detail (s : Settings) : String :=
  Text.record "ManagerConfig"
    [("max_hierarchy_depth", toString s.maxDepth), ("catch_panics", Text.bool s.containPanics)]

/-- The document that states both settings, one line each. -/
def document (s : Settings) : String :=
  "max_hierarchy_depth: " ++ toString s.maxDepth ++ "\n"
    ++ "catch_panics: " ++ Text.bool s.containPanics ++ "\n"

/-- The detailed text of a manager with these settings, by how many objects are registered and for
how many event types it has a plan at hand. -/
def managerDetail (s : Settings) (observers cachedTypes : Nat) : String :=
  Text.record "ObserverManager"
    [("config", s.detail), ("observers", toString observers),
      ("cached_types", toString cachedTypes)]

end Settings

end EventDispatch
