import Worklist.Json.Document
import Worklist.Paging.Links
import Worklist.Tracker.Dataset

/-!
# Datasets as JSON

The stored form of each record: its members in order, with those left out that have no value. When
a record is read, members may stand in any order, members that are not known are passed over, and
what a record may do without has a default.
-/

namespace Worklist

/-- An identifier as a value. -/
def Uuid.toJson (u : Uuid) : Json :=
  .string u.text

/-- A timestamp as a value. -/
def Timestamp.toJson (t : Timestamp) : Json :=
  .string t.text

namespace Tracker

open Json (RecordField Located DecodeError optionalMember)

namespace Space

/-- The field of the identifier. -/
def idField : RecordField Uuid :=
  .required "id" Located.uuid

/-- The field of the name. -/
def nameField : RecordField String :=
  .required "name" Located.text

/-- Reads a space. -/
def decode (l : Located) : Except DecodeError Space := do
  let slots ← l.record "Space" [idField.rule, nameField.rule]
  return { id := ← slots.get idField, name := ← slots.get nameField }

/-- A space as a value. -/
def toJson (s : Space) : Json :=
  .object [(idField.name, s.id.toJson), (nameField.name, .string s.name)]

end Space

namespace Iteration

/-- The field of the identifier. -/
def idField : RecordField String :=
  .required "id" Located.text

/-- The field of the space. -/
def spaceField : RecordField Uuid :=
  .required "space" Located.uuid

/-- The field of the name. -/
def nameField : RecordField String :=
  .required "name" Located.text

/-- The field of the parent. -/
def parentField : RecordField (Option String) :=
  .nullable "parent" Located.text

/-- The field of the mark of a running iteration. -/
def activeField : RecordField Bool :=
  .withDefault "active" Located.boolean false

/-- Reads an iteration. -/
def decode (l : Located) : Except DecodeError Iteration := do
  let slots ← l.record "Iteration"
    [idField.rule, spaceField.rule, nameField.rule, parentField.rule, activeField.rule]
  return {
    id := ← slots.get idField
    space := ← slots.get spaceField
    name := ← slots.get nameField
    parent := ← slots.get parentField
    active := ← slots.get activeField }

/-- An iteration as a value. -/
def toJson (it : Iteration) : Json :=
  .object ([(idField.name, .string it.id), (spaceField.name, it.space.toJson),
      (nameField.name, .string it.name)] ++
    optionalMember parentField.name .string it.parent ++
    [(activeField.name, .bool it.active)])

end Iteration

namespace WorkItemType

/-- The field of the name. -/
def nameField : RecordField String :=
  .required "name" Located.text

/-- The field of the mark of a type that is planned. -/
def plannerItemField : RecordField Bool :=
  .withDefault "planner_item" Located.boolean false

/-- Reads a type. -/
def decode (l : Located) : Except DecodeError WorkItemType := do
  let slots ← l.record "WorkItemType" [nameField.rule, plannerItemField.rule]
  return { name := ← slots.get nameField, plannerItem := ← slots.get plannerItemField }

/-- A type as a value. -/
def toJson (t : WorkItemType) : Json :=
  .object [(nameField.name, .string t.name), (plannerItemField.name, .bool t.plannerItem)]

end WorkItemType

namespace WorkItem

/-- The field of the identifier. -/
def idField : RecordField Uuid :=
  .required "id" Located.uuid

/-- The field of the space. -/
def spaceField : RecordField Uuid :=
  .required "space" Located.uuid

/-- The field of the number. -/
def numberField : RecordField Int64 :=
  .required "number" Located.int64

/-- The field of the type. -/
def typeField : RecordField String :=
  .required "type" Located.text

/-- The field of the title. -/
def titleField : RecordField String :=
  .required "title" Located.text

/-- The field of the state. -/
def stateField : RecordField String :=
  .required "state" Located.text

/-- The field of the iteration. -/
def iterationField : RecordField (Option String) :=
  .nullable "iteration" Located.text

/-- The field of the area. -/
def areaField : RecordField (Option String) :=
  .nullable "area" Located.text

/-- The field of those who are to do the work. -/
def assigneesField : RecordField (List Uuid) :=
  .withDefault "assignees" (·.list Located.uuid) []

/-- The field of the writer. -/
def creatorField : RecordField (Option Uuid) :=
  .nullable "creator" Located.uuid

/-- The field of the labels. -/
def labelsField : RecordField (List String) :=
  .withDefault "labels" (·.list Located.text) []

/-- The field of the item above. -/
def parentField : RecordField (Option Uuid) :=
  .nullable "parent" Located.uuid

/-- The field of the time of writing. -/
def createdAtField : RecordField (Option Timestamp) :=
  .nullable "created_at" Located.timestamp

/-- The field of the time of the last change. -/
def updatedAtField : RecordField (Option Timestamp) :=
  .nullable "updated_at" Located.timestamp

/-- Reads a work item. -/
def decode (l : Located) : Except DecodeError WorkItem := do
  let slots ← l.record "WorkItem"
    [idField.rule, spaceField.rule, numberField.rule, typeField.rule, titleField.rule,
      stateField.rule, iterationField.rule, areaField.rule, assigneesField.rule, creatorField.rule,
      labelsField.rule, parentField.rule, createdAtField.rule, updatedAtField.rule]
  return {
    id := ← slots.get idField
    space := ← slots.get spaceField
    number := ← slots.get numberField
    typeName := ← slots.get typeField
    title := ← slots.get titleField
    state := ← slots.get stateField
    iteration := ← slots.get iterationField
    area := ← slots.get areaField
    assignees := ← slots.get assigneesField
    creator := ← slots.get creatorField
    labels := ← slots.get labelsField
    parent := ← slots.get parentField
    createdAt := ← slots.get createdAtField
    updatedAt := ← slots.get updatedAtField }

/-- A work item as a value. -/
def toJson (w : WorkItem) : Json :=
  .object ([(idField.name, w.id.toJson), (spaceField.name, w.space.toJson),
      (numberField.name, .int w.number.toInt), (typeField.name, .string w.typeName),
      (titleField.name, .string w.title), (stateField.name, .string w.state)] ++
    optionalMember iterationField.name .string w.iteration ++
    optionalMember areaField.name .string w.area ++
    [(assigneesField.name, .array (w.assignees.map Uuid.toJson))] ++
    optionalMember creatorField.name Uuid.toJson w.creator ++
    [(labelsField.name, .strings w.labels)] ++
    optionalMember parentField.name Uuid.toJson w.parent ++
    optionalMember createdAtField.name Timestamp.toJson w.createdAt ++
    optionalMember updatedAtField.name Timestamp.toJson w.updatedAt)

end WorkItem

namespace Dataset

/-- The field of the spaces. -/
def spacesField : RecordField (List Space) :=
  .withDefault "spaces" (·.list Space.decode) []

/-- The field of the iterations. -/
def iterationsField : RecordField (List Iteration) :=
  .withDefault "iterations" (·.list Iteration.decode) []

/-- The field of the types of work items. -/
def workItemTypesField : RecordField (List WorkItemType) :=
  .withDefault "work_item_types" (·.list WorkItemType.decode) []

/-- The field of the work items. -/
def workItemsField : RecordField (List WorkItem) :=
  .withDefault "work_items" (·.list WorkItem.decode) []

/-- Reads a dataset. -/
def decode (l : Located) : Except DecodeError Dataset := do
  let slots ← l.record "Dataset"
    [spacesField.rule, iterationsField.rule, workItemTypesField.rule, workItemsField.rule]
  return {
    spaces := ← slots.get spacesField
    iterations := ← slots.get iterationsField
    workItemTypes := ← slots.get workItemTypesField
    workItems := ← slots.get workItemsField }

/-- A dataset as a value. -/
def toJson (d : Dataset) : Json :=
  .object [(spacesField.name, .array (d.spaces.map Space.toJson)),
    (iterationsField.name, .array (d.iterations.map Iteration.toJson)),
    (workItemTypesField.name, .array (d.workItemTypes.map WorkItemType.toJson)),
    (workItemsField.name, .array (d.workItems.map WorkItem.toJson))]

end Dataset

end Tracker

namespace PageSizes

open Json (RecordField Located DecodeError)

/-- The field of the default size. -/
def defaultLimitField : RecordField Nat :=
  .withDefault "default_limit" Located.word PageSizes.standard.defaultLimit

/-- The field of the largest size. -/
def maxLimitField : RecordField Nat :=
  .withDefault "max_limit" Located.word PageSizes.standard.maxLimit

/-- Reads page sizes. -/
def decode (l : Located) : Except DecodeError PageSizes := do
  let slots ← l.record "PageSizes" [defaultLimitField.rule, maxLimitField.rule]
  return {
    defaultLimit := ← slots.get defaultLimitField
    maxLimit := ← slots.get maxLimitField }

/-- Page sizes as a value. -/
def toJson (s : PageSizes) : Json :=
  .object [(defaultLimitField.name, .int s.defaultLimit), (maxLimitField.name, .int s.maxLimit)]

end PageSizes

end Worklist
