import Worklist.Proofs.Json.Decoding
import Worklist.Proofs.Timestamp
import Worklist.Proofs.Uuid
import Worklist.Tracker.Stored

/-!
# Datasets read back

What is written for a dataset is decoded to that dataset. So whatever text a dataset was decoded of,
what is written for it stays as it is from then on.
-/

namespace Worklist

open Json (DecodesTo Gives writtenMembers decodesTo_text decodesTo_boolean decodesTo_int64
  decodesTo_list decodesTo_record gives_of_some gives_of_map keys_writtenMembers_sublist
  exact_of_mem_some exact_of_mem_map exact_list exact_writtenMembers)

theorem Uuid.decodesTo (u : Uuid) : DecodesTo 0 Json.Located.uuid u.toJson u := by
  rintro limit _ - ⟨⟩
  simp [Json.Located.uuid, Json.Located.textAs, parse?_text, bind, Except.bind, pure, Except.pure]

theorem Timestamp.decodesTo {t : Timestamp} (h : t.InCalendar) :
    DecodesTo 0 Json.Located.timestamp t.toJson t := by
  rintro limit _ - ⟨⟩
  simp [Json.Located.timestamp, Json.Located.textAs, parse_text h, bind, Except.bind, pure,
    Except.pure]

theorem Uuid.toJson_ne_null (u : Uuid) : u.toJson ≠ .null :=
  nofun

theorem Timestamp.toJson_ne_null (t : Timestamp) : t.toJson ≠ .null :=
  nofun

theorem Uuid.exact_toJson (u : Uuid) : u.toJson.Exact :=
  .string

theorem Timestamp.exact_toJson (t : Timestamp) : t.toJson.Exact :=
  .string

namespace Tracker

/-! ### Records -/

namespace Space

/-- The fields of a space with their values. -/
def parts (s : Space) : List (String × Option Json) :=
  [(idField.name, some s.id.toJson), (nameField.name, some (.string s.name))]

theorem toJson_eq (s : Space) : s.toJson = .object (writtenMembers s.parts) :=
  rfl

theorem nodup_names (s : Space) : (s.parts.map (·.1)).Nodup := by
  change [idField.name, nameField.name].Nodup
  decide

theorem decodesTo (s : Space) : DecodesTo 1 decode s.toJson s := by
  have hNames := s.nodup_names
  have hId : Gives 0 (writtenMembers s.parts) idField s.id :=
    gives_of_some hNames (by simp [parts]) s.id.decodesTo (Nat.le_refl 0)
  have hName : Gives 0 (writtenMembers s.parts) nameField s.name :=
    gives_of_some hNames (by simp [parts]) (decodesTo_text s.name) (Nat.le_refl 0)
  rw [toJson_eq]
  refine decodesTo_record "Space" hNames (keys_writtenMembers_sublist s.parts) ?_ ?_
  · simp only [List.forall_mem_cons]
    exact ⟨hId.serves, hName.serves, List.forall_mem_nil _⟩
  · intro slots hGet
    simp [hGet hId, hGet hName, bind, Except.bind, pure, Except.pure]

theorem exact_toJson (s : Space) : s.toJson.Exact := by
  rw [toJson_eq]
  refine exact_writtenMembers ?_
  simp only [parts, List.forall_mem_cons]
  exact ⟨exact_of_mem_some s.id.exact_toJson, exact_of_mem_some .string,
    List.forall_mem_nil _⟩

end Space

namespace Iteration

/-- The fields of an iteration with their values. -/
def parts (it : Iteration) : List (String × Option Json) :=
  [(idField.name, some (.string it.id)), (spaceField.name, some it.space.toJson),
    (nameField.name, some (.string it.name)), (parentField.name, it.parent.map .string),
    (activeField.name, some (.bool it.active))]

theorem toJson_eq (it : Iteration) : it.toJson = .object (writtenMembers it.parts) := by
  simp [toJson, parts, writtenMembers, Json.optionalMember_map, Json.optionalMember_some]

theorem nodup_names (it : Iteration) : (it.parts.map (·.1)).Nodup := by
  change [idField.name, spaceField.name, nameField.name, parentField.name, activeField.name].Nodup
  decide

theorem decodesTo (it : Iteration) : DecodesTo 1 decode it.toJson it := by
  have hNames := it.nodup_names
  have hId : Gives 0 (writtenMembers it.parts) idField it.id :=
    gives_of_some hNames (by simp [parts]) (decodesTo_text it.id) (Nat.le_refl 0)
  have hSpace : Gives 0 (writtenMembers it.parts) spaceField it.space :=
    gives_of_some hNames (by simp [parts]) it.space.decodesTo (Nat.le_refl 0)
  have hName : Gives 0 (writtenMembers it.parts) nameField it.name :=
    gives_of_some hNames (by simp [parts]) (decodesTo_text it.name) (Nat.le_refl 0)
  have hParent : Gives 0 (writtenMembers it.parts) parentField it.parent :=
    gives_of_map rfl hNames (by simp [parts]) (fun s _ => decodesTo_text s) nofun (Nat.le_refl 0)
  have hActive : Gives 0 (writtenMembers it.parts) activeField it.active :=
    gives_of_some hNames (by simp [parts]) (decodesTo_boolean it.active) (Nat.le_refl 0)
  rw [toJson_eq]
  refine decodesTo_record "Iteration" hNames (keys_writtenMembers_sublist it.parts) ?_ ?_
  · simp only [List.forall_mem_cons]
    exact ⟨hId.serves, hSpace.serves, hName.serves, hParent.serves, hActive.serves,
      List.forall_mem_nil _⟩
  · intro slots hGet
    simp [hGet hId, hGet hSpace, hGet hName, hGet hParent, hGet hActive, bind, Except.bind, pure,
      Except.pure]

theorem exact_toJson (it : Iteration) : it.toJson.Exact := by
  rw [toJson_eq]
  refine exact_writtenMembers ?_
  simp only [parts, List.forall_mem_cons]
  exact ⟨exact_of_mem_some .string, exact_of_mem_some it.space.exact_toJson,
    exact_of_mem_some .string, exact_of_mem_map fun _ => .string,
    exact_of_mem_some .bool, List.forall_mem_nil _⟩

end Iteration

namespace WorkItemType

/-- The fields of a type with their values. -/
def parts (t : WorkItemType) : List (String × Option Json) :=
  [(nameField.name, some (.string t.name)), (plannerItemField.name, some (.bool t.plannerItem))]

theorem toJson_eq (t : WorkItemType) : t.toJson = .object (writtenMembers t.parts) :=
  rfl

theorem nodup_names (t : WorkItemType) : (t.parts.map (·.1)).Nodup := by
  change [nameField.name, plannerItemField.name].Nodup
  decide

theorem decodesTo (t : WorkItemType) : DecodesTo 1 decode t.toJson t := by
  have hNames := t.nodup_names
  have hName : Gives 0 (writtenMembers t.parts) nameField t.name :=
    gives_of_some hNames (by simp [parts]) (decodesTo_text t.name) (Nat.le_refl 0)
  have hPlanner : Gives 0 (writtenMembers t.parts) plannerItemField t.plannerItem :=
    gives_of_some hNames (by simp [parts]) (decodesTo_boolean t.plannerItem)
      (Nat.le_refl 0)
  rw [toJson_eq]
  refine decodesTo_record "WorkItemType" hNames (keys_writtenMembers_sublist t.parts)
    ?_ ?_
  · simp only [List.forall_mem_cons]
    exact ⟨hName.serves, hPlanner.serves, List.forall_mem_nil _⟩
  · intro slots hGet
    simp [hGet hName, hGet hPlanner, bind, Except.bind, pure, Except.pure]

theorem exact_toJson (t : WorkItemType) : t.toJson.Exact := by
  rw [toJson_eq]
  refine exact_writtenMembers ?_
  simp only [parts, List.forall_mem_cons]
  exact ⟨exact_of_mem_some .string, exact_of_mem_some .bool, List.forall_mem_nil _⟩

end WorkItemType

namespace WorkItem

/-- The fields of a work item with their values. -/
def parts (w : WorkItem) : List (String × Option Json) :=
  [(idField.name, some w.id.toJson), (spaceField.name, some w.space.toJson),
    (numberField.name, some (.int w.number.toInt)), (typeField.name, some (.string w.typeName)),
    (titleField.name, some (.string w.title)), (stateField.name, some (.string w.state)),
    (iterationField.name, w.iteration.map .string), (areaField.name, w.area.map .string),
    (assigneesField.name, some (.array (w.assignees.map Uuid.toJson))),
    (creatorField.name, w.creator.map Uuid.toJson), (labelsField.name, some (.strings w.labels)),
    (parentField.name, w.parent.map Uuid.toJson),
    (createdAtField.name, w.createdAt.map Timestamp.toJson),
    (updatedAtField.name, w.updatedAt.map Timestamp.toJson)]

theorem toJson_eq (w : WorkItem) : w.toJson = .object (writtenMembers w.parts) := by
  simp [toJson, parts, writtenMembers, Json.optionalMember_map, Json.optionalMember_some]

theorem nodup_names (w : WorkItem) : (w.parts.map (·.1)).Nodup := by
  change [idField.name, spaceField.name, numberField.name, typeField.name, titleField.name,
    stateField.name, iterationField.name, areaField.name, assigneesField.name, creatorField.name,
    labelsField.name, parentField.name, createdAtField.name, updatedAtField.name].Nodup
  decide

/-- The calendar has the years of both times. -/
structure InCalendar (w : WorkItem) : Prop where
  createdAt : ∀ t ∈ w.createdAt, t.InCalendar
  updatedAt : ∀ t ∈ w.updatedAt, t.InCalendar

/-- The years of both times are written with four digits and no sign. -/
structure HasPlainYears (w : WorkItem) : Prop where
  createdAt : ∀ t ∈ w.createdAt, t.HasPlainYear
  updatedAt : ∀ t ∈ w.updatedAt, t.HasPlainYear

theorem HasPlainYears.inCalendar {w : WorkItem} (h : w.HasPlainYears) : w.InCalendar where
  createdAt t ht := (h.createdAt t ht).inCalendar
  updatedAt t ht := (h.updatedAt t ht).inCalendar

theorem decodesTo {w : WorkItem} (h : w.InCalendar) : DecodesTo 2 decode w.toJson w := by
  have hNames := w.nodup_names
  have hId : Gives 1 (writtenMembers w.parts) idField w.id :=
    gives_of_some hNames (by simp [parts]) w.id.decodesTo (Nat.zero_le 1)
  have hSpace : Gives 1 (writtenMembers w.parts) spaceField w.space :=
    gives_of_some hNames (by simp [parts]) w.space.decodesTo (Nat.zero_le 1)
  have hNumber : Gives 1 (writtenMembers w.parts) numberField w.number :=
    gives_of_some hNames (by simp [parts]) (decodesTo_int64 w.number) (Nat.zero_le 1)
  have hType : Gives 1 (writtenMembers w.parts) typeField w.typeName :=
    gives_of_some hNames (by simp [parts]) (decodesTo_text w.typeName) (Nat.zero_le 1)
  have hTitle : Gives 1 (writtenMembers w.parts) titleField w.title :=
    gives_of_some hNames (by simp [parts]) (decodesTo_text w.title) (Nat.zero_le 1)
  have hState : Gives 1 (writtenMembers w.parts) stateField w.state :=
    gives_of_some hNames (by simp [parts]) (decodesTo_text w.state) (Nat.zero_le 1)
  have hIteration : Gives 1 (writtenMembers w.parts) iterationField w.iteration :=
    gives_of_map rfl hNames (by simp [parts]) (fun s _ => decodesTo_text s) nofun (Nat.zero_le 1)
  have hArea : Gives 1 (writtenMembers w.parts) areaField w.area :=
    gives_of_map rfl hNames (by simp [parts]) (fun s _ => decodesTo_text s) nofun (Nat.zero_le 1)
  have hAssignees : Gives 1 (writtenMembers w.parts) assigneesField w.assignees :=
    gives_of_some hNames (by simp [parts]) (decodesTo_list fun u _ => u.decodesTo) (Nat.le_refl 1)
  have hCreator : Gives 1 (writtenMembers w.parts) creatorField w.creator :=
    gives_of_map rfl hNames (by simp [parts]) (fun u _ => u.decodesTo) Uuid.toJson_ne_null
      (Nat.zero_le 1)
  have hLabels : Gives 1 (writtenMembers w.parts) labelsField w.labels :=
    gives_of_some hNames (by simp [parts, Json.strings])
      (decodesTo_list fun s _ => decodesTo_text s) (Nat.le_refl 1)
  have hParent : Gives 1 (writtenMembers w.parts) parentField w.parent :=
    gives_of_map rfl hNames (by simp [parts]) (fun u _ => u.decodesTo) Uuid.toJson_ne_null
      (Nat.zero_le 1)
  have hCreatedAt : Gives 1 (writtenMembers w.parts) createdAtField w.createdAt :=
    gives_of_map rfl hNames (by simp [parts])
      (fun t ht => Timestamp.decodesTo (h.createdAt t ht)) Timestamp.toJson_ne_null (Nat.zero_le 1)
  have hUpdatedAt : Gives 1 (writtenMembers w.parts) updatedAtField w.updatedAt :=
    gives_of_map rfl hNames (by simp [parts])
      (fun t ht => Timestamp.decodesTo (h.updatedAt t ht)) Timestamp.toJson_ne_null (Nat.zero_le 1)
  rw [toJson_eq]
  refine decodesTo_record "WorkItem" hNames (keys_writtenMembers_sublist w.parts) ?_ ?_
  · simp only [List.forall_mem_cons]
    exact ⟨hId.serves, hSpace.serves, hNumber.serves, hType.serves, hTitle.serves, hState.serves,
      hIteration.serves, hArea.serves, hAssignees.serves, hCreator.serves, hLabels.serves,
      hParent.serves, hCreatedAt.serves, hUpdatedAt.serves, List.forall_mem_nil _⟩
  · intro slots hGet
    simp [hGet hId, hGet hSpace, hGet hNumber, hGet hType, hGet hTitle, hGet hState,
      hGet hIteration, hGet hArea, hGet hAssignees, hGet hCreator, hGet hLabels, hGet hParent,
      hGet hCreatedAt, hGet hUpdatedAt, bind, Except.bind, pure, Except.pure]

theorem exact_toJson (w : WorkItem) : w.toJson.Exact := by
  have hNumber : (Json.int w.number.toInt).Exact := .whole (Json.fitsWord_toInt w.number)
  rw [toJson_eq]
  refine exact_writtenMembers ?_
  simp only [parts, List.forall_mem_cons]
  exact ⟨exact_of_mem_some w.id.exact_toJson, exact_of_mem_some w.space.exact_toJson,
    exact_of_mem_some hNumber, exact_of_mem_some .string, exact_of_mem_some .string,
    exact_of_mem_some .string, exact_of_mem_map fun _ => .string, exact_of_mem_map fun _ => .string,
    exact_of_mem_some (exact_list Uuid.exact_toJson), exact_of_mem_map Uuid.exact_toJson,
    exact_of_mem_some (exact_list fun _ => .string), exact_of_mem_map Uuid.exact_toJson,
    exact_of_mem_map Timestamp.exact_toJson, exact_of_mem_map Timestamp.exact_toJson,
    List.forall_mem_nil _⟩

end WorkItem

namespace Dataset

/-- The fields of a dataset with their values. -/
def parts (d : Dataset) : List (String × Option Json) :=
  [(spacesField.name, some (.array (d.spaces.map Space.toJson))),
    (iterationsField.name, some (.array (d.iterations.map Iteration.toJson))),
    (workItemTypesField.name, some (.array (d.workItemTypes.map WorkItemType.toJson))),
    (workItemsField.name, some (.array (d.workItems.map WorkItem.toJson)))]

theorem toJson_eq (d : Dataset) : d.toJson = .object (writtenMembers d.parts) :=
  rfl

theorem nodup_names (d : Dataset) : (d.parts.map (·.1)).Nodup := by
  change [spacesField.name, iterationsField.name, workItemTypesField.name,
    workItemsField.name].Nodup
  decide

/-- The calendar has the years of all times. -/
def InCalendar (d : Dataset) : Prop :=
  ∀ w ∈ d.workItems, w.InCalendar

/-- The years of all times are written with four digits and no sign. -/
def HasPlainYears (d : Dataset) : Prop :=
  ∀ w ∈ d.workItems, w.HasPlainYears

theorem decodesTo {d : Dataset} (h : d.InCalendar) : DecodesTo 4 decode d.toJson d := by
  have hNames := d.nodup_names
  have hSpaces : Gives 3 (writtenMembers d.parts) spacesField d.spaces :=
    gives_of_some hNames (by simp [parts]) (decodesTo_list fun s _ => s.decodesTo) (by decide)
  have hIterations : Gives 3 (writtenMembers d.parts) iterationsField d.iterations :=
    gives_of_some hNames (by simp [parts]) (decodesTo_list fun it _ => it.decodesTo) (by decide)
  have hTypes : Gives 3 (writtenMembers d.parts) workItemTypesField d.workItemTypes :=
    gives_of_some hNames (by simp [parts]) (decodesTo_list fun t _ => t.decodesTo) (by decide)
  have hItems : Gives 3 (writtenMembers d.parts) workItemsField d.workItems :=
    gives_of_some hNames (by simp [parts])
      (decodesTo_list fun w hw => WorkItem.decodesTo (h w hw)) (by decide)
  rw [toJson_eq]
  refine decodesTo_record "Dataset" hNames (keys_writtenMembers_sublist d.parts) ?_ ?_
  · simp only [List.forall_mem_cons]
    exact ⟨hSpaces.serves, hIterations.serves, hTypes.serves, hItems.serves,
      List.forall_mem_nil _⟩
  · intro slots hGet
    simp [hGet hSpaces, hGet hIterations, hGet hTypes, hGet hItems, bind, Except.bind, pure,
      Except.pure]

theorem exact_toJson (d : Dataset) : d.toJson.Exact := by
  rw [toJson_eq]
  refine exact_writtenMembers ?_
  simp only [parts, List.forall_mem_cons]
  exact ⟨exact_of_mem_some (exact_list Space.exact_toJson),
    exact_of_mem_some (exact_list Iteration.exact_toJson),
    exact_of_mem_some (exact_list WorkItemType.exact_toJson),
    exact_of_mem_some (exact_list WorkItem.exact_toJson), List.forall_mem_nil _⟩

/-- A dataset is decoded of what is written for it. -/
theorem decode_written {d : Dataset} (h : d.InCalendar) :
    Json.decodeText decode (Json.prettyText d.toJson) = .ok d :=
  Json.decodeText_of_layout (decodesTo h) (by decide) (Json.layout_pretty d.exact_toJson 0)

theorem decode_prettyText {d : Dataset} (h : d.HasPlainYears) :
    Json.decodeText decode (Json.prettyText d.toJson) = .ok d :=
  decode_written fun w hw => (h w hw).inCalendar

/-- What takes the place of a text when the dataset in it is written again. -/
def rewritten (content : String) : Except Json.DecodeError String := do
  let d ← Json.decodeText decode content
  return Json.prettyText d.toJson

theorem rewritten_of_decode {d : Dataset} {content : String}
    (h : Json.decodeText decode content = .ok d) :
    rewritten content = .ok (Json.prettyText d.toJson) := by
  rw [rewritten, h]
  rfl

/-- What is written for a dataset holds that dataset. Every text that holds it becomes this one when
it is written again, and that text stays as it is. -/
theorem written_holds_dataset {d : Dataset} (h : d.HasPlainYears) :
    Json.decodeText decode (Json.prettyText d.toJson) = .ok d ∧
      ∀ content, Json.decodeText decode content = .ok d →
        rewritten content = .ok (Json.prettyText d.toJson) ∧
          rewritten (Json.prettyText d.toJson) = .ok (Json.prettyText d.toJson) := by
  have hRead := decode_prettyText h
  exact ⟨hRead, fun content hContent =>
    ⟨rewritten_of_decode hContent, rewritten_of_decode hRead⟩⟩

/-- A work item written at a leap second. -/
def leapItem : WorkItem where
  id := .repeated 0
  space := .repeated 0
  number := 1
  typeName := "bug"
  title := "Leap"
  state := "open"
  iteration := none
  area := none
  assignees := []
  creator := none
  labels := []
  parent := none
  createdAt := some ⟨⟨2016, 12, 31, by decide⟩, 23, 59, 60, 123456, by decide⟩
  updatedAt := none

/-- A text with the item, in another order, with a member that is not known, and with the time of
another place. -/
def leapText : List Char :=
  "\x7b\"work_items\": [\x7b\"type\": \"bug\", \"color\": [1], \"number\": 1, ".toList ++
    "\"space\": \"00000000000000000000000000000000\", \"title\": \"Leap\", ".toList ++
    "\"id\": \"00000000-0000-0000-0000-000000000000\", \"state\": \"open\", ".toList ++
    "\"created_at\": \"2017-01-01T00:59:60.000123456+01:00\"\x7d]\x7d".toList

theorem leap_written_again :
    Json.decodeText decode (String.ofList leapText) = .ok ⟨[], [], [], [leapItem]⟩ ∧
      ∃ normal, rewritten (String.ofList leapText) = .ok normal ∧
        rewritten normal = .ok normal := by
  have hYears : HasPlainYears ⟨[], [], [], [leapItem]⟩ := by
    refine List.forall_mem_singleton.mpr ⟨?_, nofun⟩
    rintro _ ⟨⟩
    exact ⟨by decide, by decide⟩
  have hText : Json.decodeText decode (String.ofList leapText) = .ok ⟨[], [], [], [leapItem]⟩ := by
    rw [Json.decodeText_ofList]
    decide +kernel
  exact ⟨hText, _, (written_holds_dataset hYears).2 _ hText⟩

end Dataset

end Tracker

end Worklist
