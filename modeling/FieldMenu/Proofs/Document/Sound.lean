import FieldMenu.Document.Build

namespace FieldMenu

open Scan

structure ConditionGroup.Sound (group : ConditionGroup) : Prop where
  rules : group.rules ≠ []
  ruleFields : ∀ rule ∈ group.rules, rule.field ≠ ""

structure Item.Sound (item : Item) : Prop where
  fieldName : item.fieldName ≠ ""
  menuLabel : item.menuLabel ≠ ""
  actionFields : ∀ action ∈ item.additionalActions, action.field ≠ ""
  conditions : ∀ group ∈ item.conditions, group.Sound

structure Group.Sound (group : Group) : Prop where
  name : group.name ≠ ""
  items : ∀ item ∈ group.items, item.Sound
  conditions : ∀ condition ∈ group.conditions, condition.Sound

structure Document.Sound (document : Document) : Prop where
  groups : ∀ group ∈ document.groups, group.Sound
  ungroupedItems : ∀ item ∈ document.ungroupedItems, item.Sound
  filled : document.groups ≠ [] ∨ document.ungroupedItems ≠ []

theorem ne_empty_of_nonEmptyString? {text : List Char} {key value : String}
    (found : nonEmptyString? text key = some value) : value ≠ "" := by
  obtain ⟨_, filled⟩ := Option.filter_eq_some_iff.mp found
  simpa using filled

theorem Noted.forall_mem_filterMap {α β : Type} {holds : β → Prop} {read : α → Noted (Option β)}
    (each : ∀ text entry, (read text).value = some entry → holds entry) (texts : List α) :
    ∀ entry ∈ (Noted.filterMap read texts).value, holds entry := by
  rw [value_filterMap]
  intro entry member
  obtain ⟨text, _, reads⟩ := List.mem_filterMap.mp member
  exact each text entry reads

theorem Rule.field_of_read {text : List Char} {rule : Rule}
    (reads : (Rule.read text).value = some rule) : rule.field ≠ "" := by
  rw [Rule.read] at reads
  cases field : nonEmptyString? text "field" with
  | none =>
      rw [field] at reads
      cases reads
  | some name =>
      rw [field] at reads
      cases reads
      exact ne_empty_of_nonEmptyString? field

theorem AdditionalAction.field_of_read {text : List Char} {action : AdditionalAction}
    (reads : (AdditionalAction.read text).value = some action) : action.field ≠ "" := by
  rw [AdditionalAction.read] at reads
  split at reads
  · rename_i field word named _
    split at reads
    · cases reads
      exact ne_empty_of_nonEmptyString? named
    · cases reads
  · cases reads

theorem ConditionGroup.sound_of_read {text : List Char} {group : ConditionGroup}
    (reads : (ConditionGroup.read text).value = some group) : group.Sound := by
  rw [ConditionGroup.read] at reads
  simp only [Noted.value_bind] at reads
  split at reads
  · cases reads
  · rename_i filled
    cases reads
    refine ⟨?_, ?_⟩
    · exact fun empty => filled (List.isEmpty_iff.mpr empty)
    · exact Noted.forall_mem_filterMap (fun _ _ => Rule.field_of_read) _

theorem ConditionGroup.sound_of_readAll (text : List Char) :
    ∀ group ∈ (ConditionGroup.readAll text).value, group.Sound :=
  Noted.forall_mem_filterMap (fun _ _ => ConditionGroup.sound_of_read) _

theorem AdditionalAction.fields_of_readAll (text : List Char) :
    ∀ action ∈ (AdditionalAction.readAll text).value, action.field ≠ "" :=
  Noted.forall_mem_filterMap (fun _ _ => AdditionalAction.field_of_read) _

theorem Item.sound_of_read {text : List Char} {item : Item}
    (reads : (Item.read text).value = some item) : item.Sound := by
  rw [Item.read] at reads
  split at reads
  · rename_i fieldName menuLabel named labelled
    cases reads
    exact
      { fieldName := ne_empty_of_nonEmptyString? named
        menuLabel := ne_empty_of_nonEmptyString? labelled
        actionFields := AdditionalAction.fields_of_readAll text
        conditions := ConditionGroup.sound_of_readAll text }
  · cases reads

theorem Group.sound_of_read {settings : Settings} {text : List Char} {group : Group}
    (reads : (Group.read settings text).value = some group) : group.Sound := by
  rw [Group.read] at reads
  split at reads
  · rename_i name named
    cases reads
    exact
      { name := ne_empty_of_nonEmptyString? named
        items := Noted.forall_mem_filterMap (fun _ _ => Item.sound_of_read) _
        conditions := ConditionGroup.sound_of_readAll _ }
  · cases reads

theorem Group.read_eq_none_congr {settings : Settings} (other : Settings) {text : List Char}
    (dropped : (Group.read settings text).value = none) :
    (Group.read other text).value = none := by
  rw [Group.read] at dropped ⊢
  cases name : nonEmptyString? (withoutArray text "items") "groupName" with
  | none => rfl
  | some name' =>
      rw [name] at dropped
      cases dropped

namespace Document

theorem groups_readEntries (text : List Char) :
    (readEntries text).value.groups =
      (objectArray text "groups").filterMap fun slice =>
        (Group.read (readEntries text).value.toSettings slice).value :=
  Noted.value_filterMap _ _

theorem ungroupedItems_readEntries (text : List Char) :
    (readEntries text).value.ungroupedItems =
      (objectArray (withoutArray text "groups") "ungroupedItems").filterMap fun slice =>
        (Item.read slice).value :=
  Noted.value_filterMap _ _

theorem isEmpty_iff {document : Document} :
    document.isEmpty = true ↔ document.groups = [] ∧ document.ungroupedItems = [] := by
  rw [isEmpty, Bool.and_eq_true, List.isEmpty_iff, List.isEmpty_iff]

theorem sound_builtin : Document.builtin.Sound where
  groups := by
    simp only [builtin, List.forall_mem_singleton]
    exact ⟨by decide, by simpa using ⟨by decide, by decide, by simp, by simp⟩, by simp⟩
  ungroupedItems := by simp [builtin]
  filled := .inl (List.cons_ne_nil _ _)

theorem sound_of_readEntries {text : List Char}
    (filled : (readEntries text).value.isEmpty = false) : (readEntries text).value.Sound where
  groups := by
    rw [groups_readEntries, ← Noted.value_filterMap]
    exact Noted.forall_mem_filterMap (fun _ _ => Group.sound_of_read) _
  ungroupedItems := by
    rw [ungroupedItems_readEntries, ← Noted.value_filterMap]
    exact Noted.forall_mem_filterMap (fun _ _ => Item.sound_of_read) _
  filled := by
    rw [ne_eq, ne_eq, ← Classical.not_and_iff_not_or_not, ← isEmpty_iff, filled]
    exact Bool.false_ne_true

theorem isEmpty_readEntries_iff {text : List Char} :
    (readEntries text).value.isEmpty = true ↔
      (∀ slice ∈ objectArray text "groups", ∀ settings,
        (Group.read settings slice).value = none) ∧
      ∀ slice ∈ objectArray (withoutArray text "groups") "ungroupedItems",
        (Item.read slice).value = none := by
  rw [isEmpty_iff, groups_readEntries, ungroupedItems_readEntries, List.filterMap_eq_nil_iff,
    List.filterMap_eq_nil_iff]
  refine and_congr_left fun _ => ⟨fun dropped => ?_, fun dropped => ?_⟩
  · intro slice member settings
    exact Group.read_eq_none_congr settings (dropped slice member)
  · intro slice member
    exact dropped slice member _

section

variable {text : String}

theorem build_of_empty (logDropped : Bool)
    (empty : (readEntries text.toList).value.isEmpty = true) :
    (build text logDropped).document = .builtin ∧
      (build text logDropped).report.usedBuiltin = true := by
  rw [build, if_pos empty]
  exact ⟨rfl, rfl⟩

theorem build_of_filled (logDropped : Bool)
    (filled : (readEntries text.toList).value.isEmpty = false) :
    (build text logDropped).document = (readEntries text.toList).value ∧
      (build text logDropped).report.usedBuiltin = false := by
  rw [build, filled, if_neg Bool.false_ne_true]
  exact ⟨rfl, BuildReport.usedBuiltin_ofNotices _⟩

theorem report_build (text : String) (logDropped : Bool) :
    (build text logDropped).report =
      { BuildReport.ofNotices (readEntries text.toList).notices with
        usedBuiltin := (readEntries text.toList).value.isEmpty } := by
  rw [build]
  cases (readEntries text.toList).value.isEmpty with
  | true => rfl
  | false => exact (BuildReport.ofNotices_with_usedBuiltin _).symm

theorem build_congr_log (text : String) (logDropped other : Bool) :
    (build text logDropped).document = (build text other).document ∧
      (build text logDropped).report = (build text other).report := by
  rw [build, build]
  cases (readEntries text.toList).value.isEmpty <;> exact ⟨rfl, rfl⟩

theorem sound_build (text : String) (logDropped : Bool) :
    (build text logDropped).document.Sound := by
  cases empty : (readEntries text.toList).value.isEmpty with
  | true =>
      rw [(build_of_empty logDropped empty).1]
      exact sound_builtin
  | false =>
      rw [(build_of_filled logDropped empty).1]
      exact sound_of_readEntries empty

theorem usedBuiltin_build (text : String) (logDropped : Bool) :
    (build text logDropped).report.usedBuiltin = (readEntries text.toList).value.isEmpty := by
  cases empty : (readEntries text.toList).value.isEmpty with
  | true => exact (build_of_empty logDropped empty).2
  | false => exact (build_of_filled logDropped empty).2

theorem document_of_usedBuiltin {logDropped : Bool}
    (used : (build text logDropped).report.usedBuiltin = true) :
    (build text logDropped).document = .builtin := by
  rw [usedBuiltin_build] at used
  exact (build_of_empty logDropped used).1

end

/-- Whatever the text, the document built from it is not empty, and each of its entries has what it
needs.  The built-in document stands in just where neither array has a slice that yields an entry;
in every other case the entries are those that the slices yield. -/
theorem every_build_sound (text : String) (logDropped : Bool) :
    let build := Document.build text logDropped
    let groupTexts := objectArray text.toList "groups"
    let itemTexts := objectArray (withoutArray text.toList "groups") "ungroupedItems"
    build.document.Sound ∧
      (build.report.usedBuiltin = true ↔
        (∀ slice ∈ groupTexts, ∀ settings, (Group.read settings slice).value = none) ∧
          ∀ slice ∈ itemTexts, (Item.read slice).value = none) ∧
      (build.report.usedBuiltin = true → build.document = .builtin) ∧
      (build.report.usedBuiltin = false →
        build.document.groups = groupTexts.filterMap (fun slice =>
          (Group.read build.document.toSettings slice).value) ∧
        build.document.ungroupedItems =
          itemTexts.filterMap fun slice => (Item.read slice).value) := by
  intro build groupTexts itemTexts
  refine ⟨sound_build text logDropped, ?_, document_of_usedBuiltin, fun kept => ?_⟩
  · rw [usedBuiltin_build]
    exact isEmpty_readEntries_iff
  · rw [usedBuiltin_build] at kept
    rw [(build_of_filled logDropped kept).1]
    exact ⟨groups_readEntries _, ungroupedItems_readEntries _⟩

end Document

end FieldMenu
