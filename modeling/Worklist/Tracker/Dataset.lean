import Worklist.Timestamp.Basic
import Worklist.Uuid

/-!
# The data of a tracker

A dataset is a snapshot of a tracker: spaces, the iterations of each space, the types that work
items have, and the work items. The iterations of a space form a tree below an iteration without a
parent, as long as the data is sound; nothing here relies on that.

`Dataset.backlogIterations` walks the tree and gives the root and every iteration below it that is
not running.
-/

namespace Worklist.Tracker

/-- A space, which holds iterations and work items. -/
structure Space where
  /-- What identifies the space. -/
  id : Uuid
  /-- How it is called. -/
  name : String
  deriving DecidableEq

/-- A stretch of time in which work items of a space are planned. -/
structure Iteration where
  /-- What identifies the iteration. -/
  id : String
  /-- The space it belongs to. -/
  space : Uuid
  /-- How it is called. -/
  name : String
  /-- The iteration above it, unless it is the topmost. -/
  parent : Option String
  /-- Whether it is running. -/
  active : Bool
  deriving DecidableEq

/-- A type of work items. -/
structure WorkItemType where
  /-- The name of the type. -/
  name : String
  /-- Whether items of this type are planned on the backlog. -/
  plannerItem : Bool
  deriving DecidableEq

/-- A work item. -/
structure WorkItem where
  /-- What identifies the item. -/
  id : Uuid
  /-- The space it belongs to. -/
  space : Uuid
  /-- Its number in the space. -/
  number : Int64
  typeName : String
  title : String
  /-- The state of work. -/
  state : String
  /-- The iteration in which it is planned. -/
  iteration : Option String
  /-- The area it belongs to. -/
  area : Option String
  /-- Who is to do the work. -/
  assignees : List Uuid
  /-- Who wrote it. -/
  creator : Option Uuid
  labels : List String
  /-- The item it is a part of. -/
  parent : Option Uuid
  /-- When it was written. -/
  createdAt : Option Timestamp
  /-- When it was last changed. -/
  updatedAt : Option Timestamp
  deriving DecidableEq

/-- The data of a tracker. -/
structure Dataset where
  spaces : List Space
  /-- The iterations of all spaces. -/
  iterations : List Iteration
  workItemTypes : List WorkItemType
  /-- The work items of all spaces. -/
  workItems : List WorkItem
  deriving DecidableEq

namespace Dataset

/-- The dataset without any data. -/
def empty : Dataset :=
  ⟨[], [], [], []⟩

/-- Whether there are no work items. -/
def isEmpty (d : Dataset) : Bool :=
  d.workItems.isEmpty

/-- The space with an identifier. -/
def space? (d : Dataset) (id : Uuid) : Option Space :=
  d.spaces.find? (·.id == id)

/-- The iterations of a space. -/
def iterationsOf (d : Dataset) (space : Uuid) : List Iteration :=
  d.iterations.filter (·.space == space)

/-- The topmost iteration of a space. -/
def rootIteration? (d : Dataset) (space : Uuid) : Option Iteration :=
  (d.iterationsOf space).find? (·.parent.isNone)

/-- The state of a walk down the tree of iterations. -/
structure Walk where
  /-- The iterations that belong on the backlog, in the order in which they were met. -/
  found : List String
  /-- The iterations that were met. -/
  met : List String
  /-- The iterations whose children have not been looked at, the one that is next first. -/
  pending : List String
  deriving DecidableEq

namespace Walk

/-- Starts at an iteration. -/
def start (id : String) : Walk :=
  ⟨[id], [id], [id]⟩

/-- Takes in an iteration if it is a child of `parent` that has not been met. -/
def meet (parent : String) (w : Walk) (it : Iteration) : Walk :=
  if it.parent = some parent ∧ it.id ∉ w.met then
    { found := if it.active then w.found else w.found ++ [it.id]
      met := it.id :: w.met
      pending := it.id :: w.pending }
  else w

/-- Looks at the children of the pending iterations. Every iteration becomes pending at most once,
so that as many rounds as there are iterations, and one for the root, suffice. -/
def run (iterations : List Iteration) : Nat → Walk → Walk
  | 0, w => w
  | rounds + 1, w =>
    match w.pending with
    | [] => w
    | parent :: rest =>
      run iterations rounds (iterations.foldl (meet parent) { w with pending := rest })

end Walk

/-- The iterations of a space whose items belong on the backlog: the topmost one and those below it
that are not running. -/
def backlogIterations (d : Dataset) (space : Uuid) : List String :=
  match d.rootIteration? space with
  | none => []
  | some root =>
    let iterations := d.iterationsOf space
    (Walk.run iterations (iterations.length + 1) (.start root.id)).found

/-- The names of the types that are planned on the backlog. -/
def plannerTypes (d : Dataset) : List String :=
  (d.workItemTypes.filter (·.plannerItem)).map (·.name)

end Dataset

end Worklist.Tracker
