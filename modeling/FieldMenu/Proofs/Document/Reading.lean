import FieldMenu.Proofs.Document.Member

namespace FieldMenu

open Scan Layout

theorem Noted.filterMap_eq {α β γ : Type} {rendering : α → γ → Prop}
    {left : α → Noted (Option β)} {right : γ → Noted (Option β)}
    (same : ∀ text tree, rendering text tree → left text = right tree)
    {texts : List α} {trees : List γ} (renderings : List.Forall₂ rendering texts trees) :
    Noted.filterMap left texts = Noted.filterMap right trees := by
  have results : texts.map left = trees.map right := by
    induction renderings with
    | nil => rfl
    | cons first _ ih => rw [List.map_cons, List.map_cons, same _ _ first, ih]
  rw [Noted.filterMap, Noted.filterMap, results]

namespace RuleTree

theorem read_rendering {tree : RuleTree} {text : List Char}
    (rendering : tree.toJson.Rendering text) : Rule.read text = tree.read := by
  obtain ⟨field, operator, value, _⟩ := by
    simpa only [scalars, List.forall_mem_cons] using
      holds_own tree.scalars (known.distinct (by decide)) rendering
  rw [Rule.read, field.nonEmptyString?, operator.string?, value.string?]
  rfl

end RuleTree

namespace ActionTree

theorem read_rendering {tree : ActionTree} {text : List Char}
    (rendering : tree.toJson.Rendering text) : AdditionalAction.read text = tree.read := by
  obtain ⟨field, action, value, _⟩ := by
    simpa only [scalars, List.forall_mem_cons] using
      holds_own tree.scalars (known.distinct (by decide)) rendering
  rw [AdditionalAction.read, field.nonEmptyString?, action.nonEmptyString?, value.string?]
  rfl

end ActionTree

namespace ConditionTree

theorem searchable (tree : ConditionTree) : Searchable "rules" tree.members RuleTree.names :=
  have apart : ∀ key ∈ ownNames, Json.Apart key RuleTree.names :=
    ownKnown.apart RuleTree.known (by decide)
  ⟨tree.distinct, apart "rules" List.mem_cons_self, tree.nested⟩

theorem read_rendering {tree : ConditionTree} {text : List Char}
    (rendering : tree.toJson.Rendering text) : ConditionGroup.read text = tree.read := by
  have rules : Noted.filterMap Rule.read (objectArray text "rules") =
      Noted.filterMap RuleTree.read (tree.rules.getD []) :=
    Noted.filterMap_eq (fun _ _ each => RuleTree.read_rendering each)
      (objectArray_rendering tree.searchable (fun _ => ⟨_, rfl⟩) List.mem_cons_self rendering)
  have own : (Json.object (present (scalarMembers tree.scalars))).Rendering
      (withoutArray text "rules") :=
    withoutArrays_rendering [("rules", listed RuleTree.toJson tree.rules)]
      (by simpa using eq_array_of_listed) tree.distinct (by simpa using tree.searchable.apart)
      tree.nested rendering
  obtain ⟨logic, _⟩ := by
    simpa only [scalars, List.forall_mem_cons] using
      holds_own tree.scalars tree.distinct.tail own
  rw [ConditionGroup.read, read, logic.setting?, rules]

theorem readAll_rendering {members : List (String × Option Json)}
    {inner : List String} {text : List Char} {trees : Option (List ConditionTree)}
    (searchable : Searchable "conditions" members inner)
    (member : ("conditions", listed toJson trees) ∈ members)
    (rendering : (Json.object (present members)).Rendering text) :
    ConditionGroup.readAll text = Noted.filterMap read (trees.getD []) :=
  Noted.filterMap_eq (fun _ _ each => read_rendering each)
    (objectArray_rendering searchable (fun _ => ⟨_, rfl⟩) member rendering)

end ConditionTree

namespace ItemTree

theorem apart : ∀ key ∈ arrayNames, Json.Apart key innerNames :=
  Known.apart (fun _ member => ownKnown _ (List.mem_append_left _ member)) innerKnown (by decide)

theorem searchable (tree : ItemTree) {key : String} (array : key ∈ arrayNames) :
    Searchable key tree.members innerNames :=
  ⟨tree.distinct, apart key array, tree.nested⟩

theorem ownText_rendering {tree : ItemTree} {text : List Char}
    (rendering : tree.toJson.Rendering text) :
    (Json.object (present (scalarMembers tree.scalars))).Rendering (Item.ownText text) := by
  refine withoutArrays_rendering
    [("additionalActions", listed ActionTree.toJson tree.additionalActions),
      ("conditions", listed ConditionTree.toJson tree.conditions),
      ("values", listed Json.string tree.values)] ?_ tree.distinct apart tree.nested rendering
  simpa using ⟨eq_array_of_listed, eq_array_of_listed, eq_array_of_listed⟩

theorem read_rendering {tree : ItemTree} {text : List Char}
    (rendering : tree.toJson.Rendering text) : Item.read text = tree.read := by
  have actions : AdditionalAction.readAll text =
      Noted.filterMap ActionTree.read (tree.additionalActions.getD []) :=
    Noted.filterMap_eq (fun _ _ each => ActionTree.read_rendering each)
      (objectArray_rendering (tree.searchable (by simp [arrayNames])) (fun _ => ⟨_, rfl⟩)
        (by simp [members]) rendering)
  have conditions : ConditionGroup.readAll text =
      Noted.filterMap ConditionTree.read (tree.conditions.getD []) :=
    ConditionTree.readAll_rendering (tree.searchable (by simp [arrayNames])) (by simp [members])
      rendering
  have values : stringArray text "values" = tree.values.getD [] :=
    stringArray_rendering (tree.searchable (by simp [arrayNames])) (by simp [members]) rendering
  obtain ⟨fieldName, menuLabel, toggledMenuLabel, enableValue, operationType, enabled, mode,
    valueSource, icon, requireConfirmation, valueSortOrder, selectionIndicator, _⟩ := by
      simpa only [scalars, List.forall_mem_cons] using
        holds_own tree.scalars tree.distinct.tail.tail.tail
          (ownText_rendering rendering)
  have details (fieldName menuLabel : String) :
      Item.readDetails text fieldName menuLabel = tree.readDetails fieldName menuLabel := by
    simp only [Item.readDetails, readDetails, operationType.setting?, mode.setting?,
      valueSource.setting?, valueSortOrder.setting?, selectionIndicator.setting?, actions,
      conditions, values, toggledMenuLabel.nonEmptyString?, enableValue.string?, enabled.flag,
      icon.icon?, requireConfirmation.flag]
  rw [Item.read, fieldName.nonEmptyString?, menuLabel.nonEmptyString?]
  simp only [details]
  rfl

end ItemTree

namespace GroupTree

theorem searchable (tree : GroupTree) : Searchable "items" tree.members ItemTree.names :=
  ⟨tree.distinct,
    distinct_vocabulary.apart (ownKnown _ List.mem_cons_self) ItemTree.known (by decide),
    tree.nested⟩

theorem rest_rendering {tree : GroupTree} {text : List Char}
    (rendering : tree.toJson.Rendering text) :
    (Json.object (present tree.members.tail)).Rendering (withoutArray text "items") :=
  withoutArrays_rendering [("items", listed ItemTree.toJson tree.items)]
    (by simpa using eq_array_of_listed) tree.distinct (by simpa using tree.searchable.apart)
    tree.nested rendering

theorem nested_rest (tree : GroupTree) :
    Nested ConditionTree.names [("conditions", listed ConditionTree.toJson tree.conditions)] :=
  .listed ConditionTree.namedBy (.nil _)

theorem apart_rest : ∀ name ∈ ownNames.tail, Json.Apart name ConditionTree.names :=
  Known.apart (fun _ member => ownKnown _ (List.mem_of_mem_tail member)) ConditionTree.known
    (by decide)

theorem read_rendering {settings : Settings} {tree : GroupTree} {text : List Char}
    (rendering : tree.toJson.Rendering text) : Group.read settings text = tree.read settings := by
  -- The conditions are looked for where the items are gone, since items have conditions too.
  have rest := rest_rendering rendering
  have items : Noted.filterMap Item.read (objectArray text "items") =
      Noted.filterMap ItemTree.read (tree.items.getD []) :=
    Noted.filterMap_eq (fun _ _ each => ItemTree.read_rendering each)
      (objectArray_rendering tree.searchable (fun _ => ⟨_, rfl⟩) List.mem_cons_self rendering)
  have conditions : ConditionGroup.readAll (withoutArray text "items") =
      Noted.filterMap ConditionTree.read (tree.conditions.getD []) :=
    ConditionTree.readAll_rendering
      ⟨tree.distinct.tail, apart_rest _ List.mem_cons_self,
        tree.nested_rest.append (nested_scalarMembers _ _)⟩
      List.mem_cons_self rest
  obtain ⟨groupName, enabled, icon, iconCascade, valueSortOrder, selectionIndicator, _⟩ := by
    simpa only [scalars, List.forall_mem_cons] using
      holds_scalars _ tree.scalars tree.distinct.tail
        (fun name member => apart_rest name (List.mem_cons_of_mem _ member)) tree.nested_rest rest
  have details (name : String) :
      Group.readDetails settings text name = tree.readDetails settings name := by
    simp only [Group.readDetails, readDetails, items, iconCascade.setting?,
      valueSortOrder.setting?, selectionIndicator.setting?, conditions, enabled.flag, icon.icon?]
  rw [Group.read, groupName.nonEmptyString?]
  simp only [details]
  rfl

end GroupTree

namespace DocumentTree

variable {tree : DocumentTree} {text : List Char}

theorem apart : ∀ key ∈ arrayNames, Json.Apart key GroupTree.names :=
  Known.apart (fun _ member => ownKnown _ (List.mem_append_left _ member)) GroupTree.known
    (by decide)

theorem searchable (tree : DocumentTree) {key : String} (array : key ∈ arrayNames) :
    Searchable key tree.members GroupTree.names :=
  ⟨tree.distinct, apart key array, tree.nested⟩

/-- Words are read for every setting, and more than words for four of them. -/
theorem readSettings_eq
    (words : ∀ member ∈ tree.scalars, string? text member.1 = Position.string? member.2)
    (confirmBulkChanges : Holds text "confirmBulkChanges" tree.confirmBulkChanges)
    (confirmBulkThreshold : Holds text "confirmBulkThreshold" tree.confirmBulkThreshold)
    (injectClearAllFields : Holds text "injectClearAllFields" tree.injectClearAllFields)
    (injectSelectiveClear : Holds text "injectSelectiveClear" tree.injectSelectiveClear) :
    Settings.read text = tree.readSettings := by
  obtain ⟨defaultIcon, defaultIconCascade, _, _, _, clearAllFieldsLabel, clearAllFieldsIcon, _,
    selectiveClearLabel, selectiveClearIcon, selectionIndicator, selectiveClearIndicator,
    valueSortOrder, _⟩ := by
      simpa only [scalars, List.forall_mem_cons] using words
  simp only [Settings.read, InjectedEntry.read, readSettings, icon?_of_string? defaultIcon,
    setting?_of_string? _ defaultIconCascade, clearAllFieldsLabel,
    icon?_of_string? clearAllFieldsIcon, selectiveClearLabel,
    icon?_of_string? selectiveClearIcon, setting?_of_string? _ selectionIndicator,
    setting?_of_string? _ selectiveClearIndicator, setting?_of_string? _ valueSortOrder,
    confirmBulkChanges.flag, confirmBulkThreshold.integer, injectClearAllFields.flag,
    injectSelectiveClear.flag]
  rfl

theorem readSettings_rendering (rendering : tree.toJson.Rendering text) :
    Settings.read (withoutArrays text ["groups", "ungroupedItems"]) = tree.readSettings := by
  have own : (Json.object (present (scalarMembers tree.scalars))).Rendering
      (withoutArrays text ["groups", "ungroupedItems"]) :=
    withoutArrays_rendering
      [("groups", listed GroupTree.toJson tree.groups),
        ("ungroupedItems", listed ItemTree.toJson tree.ungroupedItems)]
      (by simpa using ⟨eq_array_of_listed, eq_array_of_listed⟩) tree.distinct apart tree.nested
      rendering
  have holds := holds_own tree.scalars tree.distinct.tail.tail own
  exact readSettings_eq (fun member there => (holds member there).string?)
    (holds ("confirmBulkChanges", _) (by simp [scalars]))
    (holds ("confirmBulkThreshold", _) (by simp [scalars]))
    (holds ("injectClearAllFields", _) (by simp [scalars]))
    (holds ("injectSelectiveClear", _) (by simp [scalars]))

theorem readEntries_rendering (rendering : tree.toJson.Rendering text) :
    Document.readEntries text = tree.readEntries := by
  have groups (settings : Settings) :
      Noted.filterMap (Group.read settings) (objectArray text "groups") =
        Noted.filterMap (GroupTree.read settings) (tree.groups.getD []) :=
    Noted.filterMap_eq (fun _ _ each => GroupTree.read_rendering each)
      (objectArray_rendering (tree.searchable List.mem_cons_self) (fun _ => ⟨_, rfl⟩)
        List.mem_cons_self rendering)
  have rest : (Json.object (present tree.members.tail)).Rendering (withoutArray text "groups") :=
    withoutArrays_rendering [("groups", listed GroupTree.toJson tree.groups)]
      (by simpa using eq_array_of_listed) tree.distinct
      (by simpa using apart "groups" List.mem_cons_self) tree.nested rendering
  have items : Noted.filterMap Item.read
        (objectArray (withoutArray text "groups") "ungroupedItems") =
      Noted.filterMap ItemTree.read (tree.ungroupedItems.getD []) :=
    Noted.filterMap_eq (fun _ _ each => ItemTree.read_rendering each)
      (objectArray_rendering
        ⟨tree.distinct.tail, apart _ (by simp [arrayNames]), tree.nested.tail⟩
        (fun _ => ⟨_, rfl⟩) List.mem_cons_self rest)
  simp only [Document.readEntries, readEntries, readSettings_rendering rendering, groups, items]

theorem build_of_readEntries {text : String}
    (reads : Document.readEntries text.toList = tree.readEntries) (logDropped : Bool) :
    (Document.build text logDropped).document = tree.document ∧
      (Document.build text logDropped).report = tree.report := by
  rw [Document.build, reads, document, report]
  by_cases empty : tree.readEntries.value.groups = [] ∧ tree.readEntries.value.ungroupedItems = []
  · have isEmpty : tree.readEntries.value.isEmpty = true := by simp [Document.isEmpty, empty]
    simp [isEmpty, empty]
  · have notEmpty : tree.readEntries.value.isEmpty = false := by
      simpa [Document.isEmpty, List.isEmpty_iff] using empty
    simp [notEmpty, empty, BuildReport.ofNotices_with_usedBuiltin]

/-- Every text of a tree builds the document and the report that reading the tree by position gives.
Two texts of one tree build the same. -/
theorem build_rendering (tree : DocumentTree) (text : String) (logDropped : Bool)
    (rendering : tree.toJson.Rendering text.toList) :
    (Document.build text logDropped).document = tree.document ∧
      (Document.build text logDropped).report = tree.report ∧
      ∀ (other : String) (otherLog : Bool), tree.toJson.Rendering other.toList →
        (Document.build other otherLog).document = (Document.build text logDropped).document ∧
          (Document.build other otherLog).report = (Document.build text logDropped).report := by
  have built (text : String) (logDropped : Bool) (rendering : tree.toJson.Rendering text.toList) :
      (Document.build text logDropped).document = tree.document ∧
        (Document.build text logDropped).report = tree.report :=
    build_of_readEntries (readEntries_rendering rendering) logDropped
  obtain ⟨sameDocument, sameReport⟩ := built text logDropped rendering
  refine ⟨sameDocument, sameReport, fun other otherLog otherRendering => ?_⟩
  rw [sameDocument, sameReport]
  exact built other otherLog otherRendering

def lookalikeLabel : String :=
  "\"fieldName\": \"\x7d],["

def lookalike : DocumentTree where
  valueSortOrder := some (.string "none")
  ungroupedItems := some
    [{ fieldName := some (.string "Shelf"), menuLabel := some (.string lookalikeLabel) }]

def lookalikeText : String :=
  "\x7b\"valueSortOrder\": \"none\",\"UNGROUPEDITEMS\":[\x7b\"menuLabel\":" ++
    "\"\\\"fieldName\\\": \\\"\x7d],[\",\"fieldName\":\"Shelf\"\x7d]\x7d"

def lookalikeItemText : List Char :=
  objectText {}
    [ { name := "menuLabel".toList
        value := '"' :: escape lookalikeLabel.toList ++ ['"'] },
      { name := "fieldName".toList, value := '"' :: escape "Shelf".toList ++ ['"'] } ]

theorem lookalikeItemText_written :
    (Json.object [("fieldName", .string "Shelf"), ("menuLabel", .string lookalikeLabel)]).Written
      lookalikeItemText := by
  refine .object {} _
    [ ⟨"menuLabel", .string lookalikeLabel, "menuLabel".toList, _⟩,
      ⟨"fieldName", .string "Shelf", "fieldName".toList, _⟩ ]
    (.swap _ _ _) (by decide) ?_ rfl
  simp only [List.forall_mem_cons]
  exact ⟨.string lookalikeLabel, .string "Shelf", by simp⟩

def lookalikeFields : List Field :=
  [ { name := "valueSortOrder".toList
      before := ⟨[' '], List.all_eq_true.mp rfl⟩
      value := '"' :: escape "none".toList ++ ['"'] },
    { name := "UNGROUPEDITEMS".toList, value := arrayText {} [{ value := lookalikeItemText }] } ]

theorem lookalike_rendering : lookalike.toJson.Rendering lookalikeText.toList := by
  have text : lookalikeText.toList = objectText {} lookalikeFields := by
    decide +kernel
  have items : (Json.array [.object
      [("fieldName", .string "Shelf"), ("menuLabel", .string lookalikeLabel)]]).Written
      (arrayText {} [{ value := lookalikeItemText }]) :=
    .array {} [(_, { value := lookalikeItemText })] (by simpa using lookalikeItemText_written)
  rw [text]
  refine Json.Written.rendering (.object {} _
    [ ⟨"valueSortOrder", .string "none", "valueSortOrder".toList, _⟩,
      ⟨"ungroupedItems", _, "UNGROUPEDITEMS".toList, _⟩ ]
    (.swap _ _ _) (by decide) ?_ rfl)
  simp only [List.forall_mem_cons]
  exact ⟨.string "none", items, by simp⟩

theorem build_rendering_lookalike :
    lookalike.toJson.Rendering lookalikeText.toList ∧
      (Document.build lookalikeText).document.ungroupedItems =
        [{ fieldName := "Shelf", menuLabel := lookalikeLabel }] ∧
      (Document.build lookalikeText).report = {} := by
  obtain ⟨document, report, _⟩ := build_rendering lookalike lookalikeText true lookalike_rendering
  refine ⟨lookalike_rendering, ?_, ?_⟩
  · rw [document]
    decide
  · rw [report]
    decide

end DocumentTree

end FieldMenu
