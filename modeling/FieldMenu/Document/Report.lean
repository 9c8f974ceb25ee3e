import FieldMenu.Log.Event

namespace FieldMenu

inductive Notice where
  | groupWithoutName
  | itemWithoutFieldOrLabel
  | actionWithoutFieldOrKind
  | actionOfUnknownKind
  | conditionGroupWithoutRules
  | ruleWithoutField
  | unknownOperator (word field : String)
  | unknownSetting (key word : String)
deriving DecidableEq, Repr

namespace Notice

def dropped? : Notice → Option (String × String)
  | .groupWithoutName => some ("Group dropped", "missing groupName")
  | .itemWithoutFieldOrLabel => some ("Item dropped", "missing fieldName or menuLabel")
  | .actionWithoutFieldOrKind => some ("Additional action dropped", "missing field or action")
  | .actionOfUnknownKind => some ("Additional action dropped", "unknown action kind")
  | .conditionGroupWithoutRules => some ("Condition group dropped", "no usable rules")
  | .ruleWithoutField => some ("Condition rule dropped", "missing field")
  | .unknownOperator _ _ | .unknownSetting _ _ => none

/-- The log event of a notice.  Entries left out are told of on demand only. -/
def event? (logDropped : Bool) (notice : Notice) : Option Log.Event :=
  match notice with
  | .unknownOperator word field =>
      some (.warning .unrecognizedValue "Unknown rule operator; rule always passes"
        [("operator", word), ("field", field)])
  | .unknownSetting key word =>
      some (.warning .unrecognizedValue "Unrecognized value; default applies"
        [("key", key), ("value", word)])
  | notice =>
      if logDropped then
        notice.dropped?.map fun entry => .debug .entryDropped entry.1 [("reason", entry.2)]
      else none

end Notice

structure BuildReport where
  droppedGroups : Nat := 0
  droppedItems : Nat := 0
  droppedConditionGroups : Nat := 0
  droppedRules : Nat := 0
  droppedActions : Nat := 0
  unrecognizedValues : Nat := 0
  usedBuiltin : Bool := false
deriving DecidableEq, Repr

namespace BuildReport

def count (report : BuildReport) : Notice → BuildReport
  | .groupWithoutName => { report with droppedGroups := report.droppedGroups + 1 }
  | .itemWithoutFieldOrLabel => { report with droppedItems := report.droppedItems + 1 }
  | .actionWithoutFieldOrKind | .actionOfUnknownKind =>
      { report with droppedActions := report.droppedActions + 1 }
  | .conditionGroupWithoutRules =>
      { report with droppedConditionGroups := report.droppedConditionGroups + 1 }
  | .ruleWithoutField => { report with droppedRules := report.droppedRules + 1 }
  | .unknownOperator _ _ | .unknownSetting _ _ =>
      { report with unrecognizedValues := report.unrecognizedValues + 1 }

def ofNotices (notices : List Notice) : BuildReport :=
  notices.foldl count {}

def droppedTotal (report : BuildReport) : Nat :=
  report.droppedGroups + report.droppedItems + report.droppedConditionGroups +
    report.droppedRules + report.droppedActions

def isClean (report : BuildReport) : Bool :=
  report.droppedTotal == 0 && report.unrecognizedValues == 0 && !report.usedBuiltin

/-- A number that grows by one with each notice of a kind counts the notices of that kind. -/
theorem measure_ofNotices (measure : BuildReport → Nat) {isCounted : Notice → Bool}
    (zero : measure {} = 0)
    (step : ∀ report notice,
      measure (report.count notice) = measure report + if isCounted notice then 1 else 0)
    (notices : List Notice) : measure (ofNotices notices) = notices.countP isCounted := by
  have grown (report : BuildReport) :
      measure (notices.foldl count report) = measure report + notices.countP isCounted := by
    induction notices generalizing report with
    | nil => rfl
    | cons notice notices ih =>
        rw [List.foldl_cons, ih, step, List.countP_cons]
        omega
  rw [ofNotices, grown, zero, Nat.zero_add]

theorem usedBuiltin_count (report : BuildReport) (notice : Notice) :
    (report.count notice).usedBuiltin = report.usedBuiltin := by
  cases notice <;> rfl

theorem usedBuiltin_foldl (report : BuildReport) (notices : List Notice) :
    (notices.foldl count report).usedBuiltin = report.usedBuiltin := by
  induction notices generalizing report with
  | nil => rfl
  | cons notice notices ih => rw [List.foldl_cons, ih, usedBuiltin_count]

@[simp] theorem usedBuiltin_ofNotices (notices : List Notice) :
    (ofNotices notices).usedBuiltin = false :=
  usedBuiltin_foldl {} notices

theorem ofNotices_with_usedBuiltin (notices : List Notice) :
    { ofNotices notices with usedBuiltin := false } = ofNotices notices := by
  rw [← usedBuiltin_ofNotices notices]

end BuildReport

/-- A value together with what was noticed while it was read, in order. -/
structure Noted (α : Type) where
  value : α
  notices : List Notice := []

namespace Noted

instance : Monad Noted where
  pure value := { value }
  bind noted next :=
    let result := next noted.value
    { value := result.value, notices := noted.notices ++ result.notices }

def drop {α : Type} (reason : Notice) : Noted (Option α) :=
  { value := none, notices := [reason] }

def filterMap {α β : Type} (read : α → Noted (Option β)) (entries : List α) : Noted (List β) :=
  let results := entries.map read
  { value := results.filterMap Noted.value, notices := results.flatMap Noted.notices }

@[simp] theorem value_pure {α : Type} (value : α) : (pure value : Noted α).value = value :=
  rfl

@[simp] theorem value_bind {α β : Type} (noted : Noted α) (next : α → Noted β) :
    (noted >>= next).value = (next noted.value).value :=
  rfl

@[simp] theorem value_map {α β : Type} (f : α → β) (noted : Noted α) :
    (f <$> noted).value = f noted.value :=
  rfl

@[simp] theorem value_drop {α : Type} (reason : Notice) :
    (Noted.drop reason : Noted (Option α)).value = none :=
  rfl

@[simp] theorem notices_pure {α : Type} (value : α) : (pure value : Noted α).notices = [] :=
  rfl

@[simp] theorem notices_bind {α β : Type} (noted : Noted α) (next : α → Noted β) :
    (noted >>= next).notices = noted.notices ++ (next noted.value).notices :=
  rfl

@[simp] theorem notices_map {α β : Type} (f : α → β) (noted : Noted α) :
    (f <$> noted).notices = noted.notices :=
  List.append_nil _

@[simp] theorem notices_drop {α : Type} (reason : Notice) :
    (Noted.drop reason : Noted (Option α)).notices = [reason] :=
  rfl

@[simp] theorem notices_filterMap {α β : Type} (read : α → Noted (Option β)) (entries : List α) :
    (Noted.filterMap read entries).notices = entries.flatMap fun entry => (read entry).notices :=
  List.flatMap_map _ _ _

@[simp] theorem value_filterMap {α β : Type} (read : α → Noted (Option β)) (entries : List α) :
    (Noted.filterMap read entries).value = entries.filterMap fun entry => (read entry).value :=
  List.filterMap_map

end Noted

end FieldMenu
