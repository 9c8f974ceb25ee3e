import FieldMenu.Proofs.Document.Sound

namespace FieldMenu

open Scan

inductive EntryLevel where
  | group
  | item
  | conditionGroup
  | rule
  | action
deriving DecidableEq

def Notice.level? : Notice → Option EntryLevel
  | .groupWithoutName => some .group
  | .itemWithoutFieldOrLabel => some .item
  | .actionWithoutFieldOrKind | .actionOfUnknownKind => some .action
  | .conditionGroupWithoutRules => some .conditionGroup
  | .ruleWithoutField => some .rule
  | .unknownOperator _ _ | .unknownSetting _ _ => none

namespace BuildReport

def dropped (report : BuildReport) : EntryLevel → Nat
  | .group => report.droppedGroups
  | .item => report.droppedItems
  | .conditionGroup => report.droppedConditionGroups
  | .rule => report.droppedRules
  | .action => report.droppedActions

theorem dropped_ofNotices (notices : List Notice) (level : EntryLevel) :
    (ofNotices notices).dropped level =
      notices.countP fun notice => notice.level? = some level := by
  refine measure_ofNotices (fun report => report.dropped level) ?_ ?_ notices
  · cases level <;> rfl
  · intro report notice
    cases notice <;> cases level <;> rfl

end BuildReport

inductive DocumentEntry where
  | group (group : Group)
  | item (item : Item)
  | conditionGroup (group : ConditionGroup)
  | rule (rule : Rule)
  | action (action : AdditionalAction)

def DocumentEntry.level : DocumentEntry → EntryLevel
  | .group _ => .group
  | .item _ => .item
  | .conditionGroup _ => .conditionGroup
  | .rule _ => .rule
  | .action _ => .action

def Rule.entries (rule : Rule) : List DocumentEntry :=
  [.rule rule]

def ConditionGroup.entries (group : ConditionGroup) : List DocumentEntry :=
  .conditionGroup group :: group.rules.flatMap Rule.entries

def AdditionalAction.entries (action : AdditionalAction) : List DocumentEntry :=
  [.action action]

def Item.entries (item : Item) : List DocumentEntry :=
  .item item ::
    (item.additionalActions.flatMap AdditionalAction.entries ++
      item.conditions.flatMap ConditionGroup.entries)

def Group.entries (group : Group) : List DocumentEntry :=
  .group group ::
    (group.items.flatMap Item.entries ++ group.conditions.flatMap ConditionGroup.entries)

def Document.entries (document : Document) : List DocumentEntry :=
  document.groups.flatMap Group.entries ++ document.ungroupedItems.flatMap Item.entries

/-- A slice of an array, and what kind of entry the array holds. -/
structure EntryText where
  level : EntryLevel
  text : List Char

def EntryText.read (settings : Settings) (entry : EntryText) : Option DocumentEntry :=
  match entry.level with
  | .group => (Group.read settings entry.text).value.map .group
  | .item => (Item.read entry.text).value.map .item
  | .conditionGroup => (ConditionGroup.read entry.text).value.map .conditionGroup
  | .rule => (Rule.read entry.text).value.map .rule
  | .action => (AdditionalAction.read entry.text).value.map .action

def Rule.texts (text : List Char) : List EntryText :=
  [{ level := .rule, text }]

def ConditionGroup.texts (text : List Char) : List EntryText :=
  { level := .conditionGroup, text } :: (objectArray text "rules").flatMap Rule.texts

def AdditionalAction.texts (text : List Char) : List EntryText :=
  [{ level := .action, text }]

def Item.isUsable (text : List Char) : Bool :=
  (nonEmptyString? (Item.ownText text) "fieldName").isSome &&
    (nonEmptyString? (Item.ownText text) "menuLabel").isSome

def Item.texts (text : List Char) : List EntryText :=
  { level := .item, text } ::
    if Item.isUsable text then
      (objectArray text "additionalActions").flatMap AdditionalAction.texts ++
        (objectArray text "conditions").flatMap ConditionGroup.texts
    else []

def Group.isUsable (text : List Char) : Bool :=
  (nonEmptyString? (withoutArray text "items") "groupName").isSome

def Group.texts (text : List Char) : List EntryText :=
  { level := .group, text } ::
    if Group.isUsable text then
      (objectArray text "items").flatMap Item.texts ++
        (objectArray (withoutArray text "items") "conditions").flatMap ConditionGroup.texts
    else []

def Document.texts (text : List Char) : List EntryText :=
  (objectArray text "groups").flatMap Group.texts ++
    (objectArray (withoutArray text "groups") "ungroupedItems").flatMap Item.texts

theorem Item.isUsable_eq_isSome_read (text : List Char) :
    Item.isUsable text = (Item.read text).value.isSome := by
  rw [isUsable, read]
  cases nonEmptyString? (ownText text) "fieldName" with
  | none => rfl
  | some fieldName => cases nonEmptyString? (ownText text) "menuLabel" <;> rfl

theorem Group.isUsable_eq_isSome_read (settings : Settings) (text : List Char) :
    Group.isUsable text = (Group.read settings text).value.isSome := by
  rw [isUsable, read]
  cases nonEmptyString? (withoutArray text "items") "groupName" <;> rfl

theorem EntryText.level_of_read {settings : Settings} {entry : EntryText} {kept : DocumentEntry}
    (reads : entry.read settings = some kept) : kept.level = entry.level := by
  obtain ⟨level, text⟩ := entry
  cases level <;>
    · obtain ⟨_, _, rfl⟩ := Option.map_eq_some_iff.mp reads
      rfl

/-- The entries are those that the texts give, in order, and at each level the notices tell of every
text that gives none. -/
structure Accounts (settings : Settings) (texts : List EntryText) (entries : List DocumentEntry)
    (notices : List Notice) : Prop where
  kept : texts.filterMap (EntryText.read settings) = entries
  counted : ∀ level,
    (texts.countP fun entry => entry.level = level) =
      (entries.countP fun entry => entry.level = level) +
        notices.countP fun notice => notice.level? = some level

namespace Accounts

variable {settings : Settings} {texts otherTexts : List EntryText}
  {entries otherEntries : List DocumentEntry} {notices otherNotices : List Notice}

theorem of_settings (other : ∀ notice ∈ notices, notice.level? = none) :
    Accounts settings [] [] notices where
  kept := rfl
  counted level := by
    have uncounted : (notices.countP fun notice => notice.level? = some level) = 0 := by
      rw [List.countP_eq_zero]
      intro notice member
      simp [other notice member]
    rw [uncounted]
    rfl

theorem nil : Accounts settings [] [] [] :=
  of_settings (List.forall_mem_nil _)

theorem append (first : Accounts settings texts entries notices)
    (second : Accounts settings otherTexts otherEntries otherNotices) :
    Accounts settings (texts ++ otherTexts) (entries ++ otherEntries)
      (notices ++ otherNotices) where
  kept := by rw [List.filterMap_append, first.kept, second.kept]
  counted level := by
    simp only [List.countP_append, first.counted, second.counted]
    omega

theorem keep {entry : EntryText} {value : DocumentEntry}
    (reads : entry.read settings = some value)
    (rest : Accounts settings texts entries notices) :
    Accounts settings (entry :: texts) (value :: entries) notices where
  kept := by rw [List.filterMap_cons_some reads, rest.kept]
  counted level := by
    simp only [List.countP_cons, EntryText.level_of_read reads, rest.counted]
    omega

theorem drop {entry : EntryText} {reason : Notice} (reads : entry.read settings = none)
    (level : reason.level? = some entry.level)
    (rest : Accounts settings texts entries notices) :
    Accounts settings (entry :: texts) entries (notices ++ [reason]) where
  kept := by rw [List.filterMap_cons_none reads, rest.kept]
  counted at_ := by
    simp only [List.countP_cons, List.countP_append, List.countP_nil, level, Option.some.injEq,
      rest.counted]
    omega

theorem filterMap {α : Type} {read : List Char → Noted (Option α)}
    {texts : List Char → List EntryText} {entries : α → List DocumentEntry}
    (each : ∀ text, Accounts settings (texts text) ((read text).value.toList.flatMap entries)
      (read text).notices)
    (slices : List (List Char)) :
    Accounts settings (slices.flatMap texts) ((Noted.filterMap read slices).value.flatMap entries)
      (Noted.filterMap read slices).notices := by
  simp only [Noted.value_filterMap, Noted.notices_filterMap]
  induction slices with
  | nil => exact nil
  | cons text slices ih =>
      have both := (each text).append ih
      cases value : (read text).value with
      | none => simpa [value] using both
      | some entry => simpa [value] using both

end Accounts

theorem Accounts.setting {settings : Settings} {α : Type} (parse? : String → Option α)
    (text : List Char) (key : String) :
    Accounts settings [] [] (setting? parse? text key).notices := by
  rw [setting?]
  cases string? text key with
  | none => exact nil
  | some word =>
      cases choice : parse? word with
      | some choice' =>
          simp only [choice]
          exact nil
      | none =>
          simp only [choice]
          exact of_settings (List.forall_mem_singleton.mpr rfl)

section

variable (settings : Settings)

theorem Rule.accounts (text : List Char) :
    Accounts settings (Rule.texts text) ((Rule.read text).value.toList.flatMap Rule.entries)
      (Rule.read text).notices := by
  have reads : EntryText.read settings { level := .rule, text } =
      (Rule.read text).value.map .rule := rfl
  rw [Rule.read] at reads ⊢
  cases field : nonEmptyString? text "field" with
  | none =>
      rw [field] at reads
      exact .drop reads rfl .nil
  | some name =>
      rw [field] at reads
      refine .keep reads (.of_settings ?_)
      cases ((string? text "operator").map Operator.parse).getD .equals <;>
        simp [operatorNotices, Notice.level?]

theorem AdditionalAction.accounts (text : List Char) :
    Accounts settings (AdditionalAction.texts text)
      ((AdditionalAction.read text).value.toList.flatMap AdditionalAction.entries)
      (AdditionalAction.read text).notices := by
  have reads : EntryText.read settings { level := .action, text } =
      (AdditionalAction.read text).value.map .action := rfl
  rw [AdditionalAction.read] at reads ⊢
  cases field : nonEmptyString? text "field" with
  | none =>
      rw [field] at reads
      exact .drop reads rfl .nil
  | some name =>
      cases action : nonEmptyString? text "action" with
      | none =>
          rw [field, action] at reads
          exact .drop reads rfl .nil
      | some word =>
          rw [field, action] at reads
          cases kind : ActionKind.parse? word with
          | none =>
              simp only [kind] at reads ⊢
              exact .drop reads rfl .nil
          | some does =>
              simp only [kind] at reads ⊢
              exact .keep reads .nil

theorem ConditionGroup.accounts (text : List Char) :
    Accounts settings (ConditionGroup.texts text)
      ((ConditionGroup.read text).value.toList.flatMap ConditionGroup.entries)
      (ConditionGroup.read text).notices := by
  have reads : EntryText.read settings { level := .conditionGroup, text } =
      (ConditionGroup.read text).value.map .conditionGroup := rfl
  have logic : Accounts settings [] [] _ :=
    .setting Logic.parse? (withoutArray text "rules") "logic"
  have rules := logic.append (.filterMap (Rule.accounts settings) (objectArray text "rules"))
  rw [ConditionGroup.read] at reads ⊢
  simp only [Noted.value_bind, Noted.notices_bind] at reads ⊢
  cases empty : (Noted.filterMap Rule.read (objectArray text "rules")).value.isEmpty with
  | true =>
      -- No rule is kept, so the rules of a group that is left out are all counted.
      rw [List.isEmpty_iff.mp empty] at rules
      simp only [empty, if_true, Noted.value_drop, Noted.notices_drop] at reads ⊢
      rw [← List.append_assoc]
      exact Accounts.drop reads rfl rules
  | false =>
      simp only [empty, Bool.false_eq_true, if_false, Noted.value_pure, Noted.notices_pure]
        at reads ⊢
      simpa [texts, entries] using Accounts.keep reads rules

theorem Item.accounts_details (text : List Char) (fieldName menuLabel : String) :
    Accounts settings
      ((objectArray text "additionalActions").flatMap AdditionalAction.texts ++
        (objectArray text "conditions").flatMap ConditionGroup.texts)
      ((Item.readDetails text fieldName menuLabel).value.additionalActions.flatMap
          AdditionalAction.entries ++
        (Item.readDetails text fieldName menuLabel).value.conditions.flatMap
          ConditionGroup.entries)
      (Item.readDetails text fieldName menuLabel).notices := by
  have own : Accounts settings [] [] _ :=
    (Accounts.setting Operation.parse? (ownText text) "operationType").append
      ((Accounts.setting ItemMode.parse? (ownText text) "mode").append
        ((Accounts.setting ValueSource.parse? (ownText text) "valueSource").append
          ((Accounts.setting SortOrder.parse? (ownText text) "valueSortOrder").append
            (Accounts.setting Indicator.parse? (ownText text) "selectionIndicator"))))
  have actions : Accounts settings _ _ _ :=
    .filterMap (AdditionalAction.accounts settings) (objectArray text "additionalActions")
  have conditions : Accounts settings _ _ _ :=
    .filterMap (ConditionGroup.accounts settings) (objectArray text "conditions")
  have whole := own.append (actions.append conditions)
  simpa [readDetails, AdditionalAction.readAll, ConditionGroup.readAll] using whole

theorem Item.accounts (text : List Char) :
    Accounts settings (Item.texts text) ((Item.read text).value.toList.flatMap Item.entries)
      (Item.read text).notices := by
  have reads : EntryText.read settings { level := .item, text } =
      (Item.read text).value.map .item := rfl
  rw [Item.texts, Item.isUsable_eq_isSome_read]
  rw [Item.read] at reads ⊢
  cases fieldName : nonEmptyString? (ownText text) "fieldName" with
  | none =>
      rw [fieldName] at reads
      exact .drop reads rfl .nil
  | some name =>
      cases menuLabel : nonEmptyString? (ownText text) "menuLabel" with
      | none =>
          rw [fieldName, menuLabel] at reads
          exact .drop reads rfl .nil
      | some label =>
          rw [fieldName, menuLabel] at reads
          have details := Item.accounts_details settings text name label
          simpa [entries] using Accounts.keep reads details

theorem Group.accounts_details (defaults : Settings) (text : List Char) (name : String) :
    Accounts settings
      ((objectArray text "items").flatMap Item.texts ++
        (objectArray (withoutArray text "items") "conditions").flatMap ConditionGroup.texts)
      ((Group.readDetails defaults text name).value.items.flatMap Item.entries ++
        (Group.readDetails defaults text name).value.conditions.flatMap ConditionGroup.entries)
      (Group.readDetails defaults text name).notices := by
  have items : Accounts settings _ _ _ :=
    .filterMap (Item.accounts settings) (objectArray text "items")
  have own : Accounts settings [] [] _ :=
    (Accounts.setting IconCascade.parse? (withoutArray text "items") "iconCascade").append
      ((Accounts.setting SortOrder.parse? (withoutArray text "items") "valueSortOrder").append
        (Accounts.setting Indicator.parse? (withoutArray text "items") "selectionIndicator"))
  have conditions : Accounts settings _ _ _ :=
    .filterMap (ConditionGroup.accounts settings)
      (objectArray (withoutArray text "items") "conditions")
  have whole := items.append (own.append conditions)
  simpa [readDetails, ConditionGroup.readAll] using whole

theorem Group.accounts (text : List Char) :
    Accounts settings (Group.texts text)
      ((Group.read settings text).value.toList.flatMap Group.entries)
      (Group.read settings text).notices := by
  have reads : EntryText.read settings { level := .group, text } =
      (Group.read settings text).value.map .group := rfl
  rw [Group.texts, Group.isUsable_eq_isSome_read settings]
  rw [Group.read] at reads ⊢
  cases groupName : nonEmptyString? (withoutArray text "items") "groupName" with
  | none =>
      rw [groupName] at reads
      exact .drop reads rfl .nil
  | some name =>
      rw [groupName] at reads
      have details := Group.accounts_details settings settings text name
      simpa [entries] using Accounts.keep reads details

end

theorem Settings.accounts (settings : Settings) (text : List Char) :
    Accounts settings [] [] (Settings.read text).notices := by
  have own : Accounts settings [] [] _ :=
    (Accounts.setting IconCascade.parse? text "defaultIconCascade").append
      ((Accounts.setting Indicator.parse? text "selectionIndicator").append
        ((Accounts.setting Indicator.parse? text "selectiveClearIndicator").append
          (Accounts.setting SortOrder.parse? text "valueSortOrder")))
  simpa [read] using own

namespace Document

theorem accounts_readEntries (text : List Char) :
    Accounts (readEntries text).value.toSettings (texts text) (readEntries text).value.entries
      (readEntries text).notices := by
  let settings := (Settings.read (withoutArrays text ["groups", "ungroupedItems"])).value
  have own := settings.accounts (withoutArrays text ["groups", "ungroupedItems"])
  have groups : Accounts settings _ _ _ :=
    .filterMap (Group.accounts settings) (objectArray text "groups")
  have items : Accounts settings _ _ _ :=
    .filterMap (Item.accounts settings) (objectArray (withoutArray text "groups") "ungroupedItems")
  have whole := own.append (groups.append items)
  simpa [readEntries, texts, entries] using whole

theorem entries_of_isEmpty {document : Document} (empty : document.isEmpty = true) :
    document.entries = [] := by
  obtain ⟨groups, ungroupedItems⟩ := isEmpty_iff.mp empty
  rw [entries, groups, ungroupedItems]
  rfl

end Document

theorem EntryText.read_eq_none_congr {settings : Settings} (other : Settings) {entry : EntryText}
    (dropped : entry.read settings = none) : entry.read other = none := by
  obtain ⟨level, text⟩ := entry
  cases level with
  | group =>
      rw [read, Option.map_eq_none_iff] at dropped ⊢
      exact Group.read_eq_none_congr other dropped
  | item | conditionGroup | rule | action => exact dropped

/-- Of the texts that the walk over a document meets, those of entries that are kept give the
entries of the document, in order, and at each level the report counts all others.  Where the
built-in document stands in, no entry was kept. -/
theorem every_entry_accounted (text : String) (logDropped : Bool) :
    let build := Document.build text logDropped
    let texts := Document.texts text.toList
    let kept := if build.report.usedBuiltin then [] else build.document.entries
    texts.filterMap (EntryText.read build.document.toSettings) = kept ∧
      ∀ level,
        (texts.countP fun entry => entry.level = level) =
          (kept.countP fun entry => entry.level = level) + build.report.dropped level := by
  intro build texts kept
  have accounts := Document.accounts_readEntries text.toList
  have dropped (level : EntryLevel) : build.report.dropped level =
      (Document.readEntries text.toList).notices.countP
        fun notice => notice.level? = some level := by
    rw [← BuildReport.dropped_ofNotices, Document.report_build]
    cases level <;> rfl
  simp only [dropped]
  cases empty : (Document.readEntries text.toList).value.isEmpty with
  | true =>
      have used : build.report.usedBuiltin = true := by
        rw [Document.usedBuiltin_build, empty]
      have none : kept = [] := if_pos used
      rw [Document.entries_of_isEmpty empty] at accounts
      rw [none]
      refine ⟨?_, accounts.counted⟩
      rw [List.filterMap_eq_nil_iff]
      intro entry member
      exact EntryText.read_eq_none_congr _ (List.filterMap_eq_nil_iff.mp accounts.kept entry member)
  | false =>
      obtain ⟨document, unused⟩ := Document.build_of_filled logDropped empty
      have all : kept = build.document.entries := by
        simp only [kept, build, unused, Bool.false_eq_true, if_false]
      rw [all, document]
      exact ⟨accounts.kept, accounts.counted⟩

end FieldMenu
