import Worklist.Filter.Evaluate
import Worklist.Filter.Field
import Worklist.Tracker.Dataset

/-!
# What filters may ask of work items

The attributes that a work item has as a record, and the table of the fields by which filters reach
them. Every attribute of the table is one that every work item has, with a value of the kind that
the table states or without a value.
-/

namespace Worklist.Tracker

open Worklist.Filter (Attribute FieldDef FieldTable ValueKind)

/-- The attribute of the identifier. -/
def idAttribute : String := "id"

/-- The attribute of the space. -/
def spaceAttribute : String := "space"

/-- The attribute of the number. -/
def numberAttribute : String := "system.number"

/-- The attribute of the title. -/
def titleAttribute : String := "system.title"

/-- The attribute of the state. -/
def stateAttribute : String := "system.state"

/-- The attribute of the iteration. -/
def iterationAttribute : String := "system.iteration"

/-- The attribute of the area. -/
def areaAttribute : String := "system.area"

/-- The attribute of the type. -/
def typeAttribute : String := "Type"

/-- The attribute of those who are to do the work. -/
def assigneesAttribute : String := "system.assignees"

/-- The attribute of the writer. -/
def creatorAttribute : String := "system.creator"

/-- The attribute of the labels. -/
def labelsAttribute : String := "system.labels"

/-- The attribute that tells whether an item is part of another one. -/
def parentExistsAttribute : String := "parent.exists"

/-- The fields of work items. -/
def workItemFields : FieldTable :=
  [⟨["id"], idAttribute, .uuid, false⟩,
    ⟨["space"], spaceAttribute, .uuid, false⟩,
    ⟨["number"], numberAttribute, .number, false⟩,
    ⟨["title"], titleAttribute, .text, false⟩,
    ⟨["state"], stateAttribute, .text, false⟩,
    ⟨["iteration"], iterationAttribute, .text, false⟩,
    ⟨["area"], areaAttribute, .text, false⟩,
    ⟨["type", "workitemtype"], typeAttribute, .text, false⟩,
    ⟨["assignee"], assigneesAttribute, .uuid, true⟩,
    ⟨["creator"], creatorAttribute, .uuid, false⟩,
    ⟨["label"], labelsAttribute, .text, true⟩,
    ⟨["parent.exists"], parentExistsAttribute, .bool, false⟩]

/-- The value of an attribute that may be missing. -/
def orNull {α : Type} (wrap : α → Attribute) : Option α → Attribute
  | some x => wrap x
  | none => .null

/-- A work item as a record. -/
def WorkItem.record (w : WorkItem) : Filter.Record := fun name =>
  if name = idAttribute then some (.uuid w.id)
  else if name = spaceAttribute then some (.uuid w.space)
  else if name = numberAttribute then some (.number w.number)
  else if name = titleAttribute then some (.text w.title)
  else if name = stateAttribute then some (.text w.state)
  else if name = iterationAttribute then some (orNull .text w.iteration)
  else if name = areaAttribute then some (orNull .text w.area)
  else if name = typeAttribute then some (.text w.typeName)
  else if name = assigneesAttribute then some (.uuids w.assignees)
  else if name = creatorAttribute then some (orNull .uuid w.creator)
  else if name = labelsAttribute then some (.texts w.labels)
  else if name = parentExistsAttribute then some (.bool w.parent.isSome)
  else none

end Worklist.Tracker
