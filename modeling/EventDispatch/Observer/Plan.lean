import EventDispatch.Observer.Member

/-!
# Delivery plans

The plan for an event type says which handlers an event of that type is delivered to. In each phase
every member contributes its most specific handler, in the order of registration. A plan without
handlers in the first and the last phase is that of the middle phase alone; `Plan.toList` gives the
handlers in the order in which they run.
-/

set_option autoImplicit false

namespace EventDispatch

/-- A delivery plan: nothing to do, one handler, several handlers of one phase, or three phases. -/
inductive Plan where
  | ignore
  | call (handler : BoundHandler)
  | list (handlers : List BoundHandler)
  | sequence (before invoke after : Plan)
  deriving DecidableEq, Repr, Inhabited

namespace Plan

/-- The handlers of a plan in the order in which they run. -/
def toList : Plan → List BoundHandler
  | .ignore => []
  | .call b => [b]
  | .list bs => bs
  | .sequence before invoke after => before.toList ++ invoke.toList ++ after.toList

/-- The plan of one phase. -/
def collect : List BoundHandler → Plan
  | [] => .ignore
  | [b] => .call b
  | bs => .list bs

/-- Whether there is nothing to do. -/
def isIgnore : Plan → Bool
  | .ignore => true
  | _ => false

/-- The plan of three phases. -/
def phased (before invoke after : Plan) : Plan :=
  if before.isIgnore && after.isIgnore then invoke else .sequence before invoke after

@[simp] theorem toList_collect (bs : List BoundHandler) : (collect bs).toList = bs := by
  match bs with
  | [] => rfl
  | [_] => rfl
  | _ :: _ :: _ => rfl

theorem isIgnore_iff {p : Plan} : p.isIgnore = true ↔ p = .ignore := by
  cases p <;> simp [isIgnore]

/-- Composing three phases keeps every handler in its place. -/
@[simp] theorem toList_phased (before invoke after : Plan) :
    (phased before invoke after).toList = before.toList ++ invoke.toList ++ after.toList := by
  unfold phased
  split
  · rename_i hignore
    simp only [Bool.and_eq_true, isIgnore_iff] at hignore
    simp [hignore.1, hignore.2, toList]
  · rfl

/-- The handlers that the members contribute to a phase. -/
def eligible (h : Hierarchy) (maxDepth : Nat) (members : Registry) (t : EventType) (p : Phase) :
    List BoundHandler :=
  members.filterMap fun m => m.handler? h maxDepth p t

/-- The plan for events of type `t`. -/
def build (h : Hierarchy) (maxDepth : Nat) (members : Registry) (t : EventType) : Plan :=
  phased (collect (eligible h maxDepth members t .before))
    (collect (eligible h maxDepth members t .invoke))
    (collect (eligible h maxDepth members t .after))

/-- The plan runs the contributions phase by phase. -/
theorem toList_build (h : Hierarchy) (maxDepth : Nat) (members : Registry) (t : EventType) :
    (build h maxDepth members t).toList
      = Phase.all.flatMap (eligible h maxDepth members t) := by
  simp [build, Phase.all, List.append_assoc]

end Plan

end EventDispatch
