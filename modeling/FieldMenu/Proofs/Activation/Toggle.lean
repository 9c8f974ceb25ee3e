import FieldMenu.Proofs.Activation.Plan

namespace FieldMenu

open Text

/-- The operation takes the field away: always, or because every record of the batch holds the value
already. -/
def Operation.Removes (operation : Operation) (field value : String) (batch : List Record) : Prop :=
  operation = .remove ∨
    operation = .toggle ∧ ∀ record ∈ batch,
      ∃ held, record.field? field = some held ∧ sameIgnoringCase held value = true

theorem Operation.removes_iff {operation : Operation} {field value : String}
    {batch : List Record} :
    operation.removes field value batch = true ↔ operation.Removes field value batch := by
  cases operation with
  | toggle => simp [removes, Removes, Record.holdsValue_iff]
  | set => simp [removes, Removes]
  | remove => simp [removes, Removes]

namespace MenuAction

variable {field value : String} {operation : Operation} {batch : List Record}
  (asks : Bool) (actions : List AdditionalAction) (record : Record)

theorem writes_of_removes (removes : operation.Removes field value batch) :
    (MenuAction.toggle field value operation asks actions).writes batch record =
      [.removing field] :=
  if_pos (Operation.removes_iff.mpr removes)

theorem writes_of_not_removes (sets : ¬ operation.Removes field value batch) :
    (MenuAction.toggle field value operation asks actions).writes batch record =
      .setting field value :: actions :=
  if_neg fun removes => sets (Operation.removes_iff.mp removes)

end MenuAction

namespace Record

variable {record : Record} {field value : String}

theorem holdsValue_of_field? (held : record.field? field = some value) :
    record.holdsValue field value = true :=
  holdsValue_iff.mpr ⟨value, held, sameIgnoringCase_self value⟩

theorem not_holdsValue_of_field? (absent : record.field? field = none) (value : String) :
    record.holdsValue field value = false := by
  rw [holdsValue, absent]

end Record

structure Toggled (operation : Operation) (field value : String)
    (actions : List AdditionalAction) (batch : List Record) (before after : Record) : Prop where
  fieldsOnly : after = { before with customFields := after.customFields }
  locked : before.locked = true → after = before
  /-- Every field of that name goes, and no additional action is done. -/
  removed : before.locked = false → isBlankText field = false →
    (∀ action ∈ actions, isBlankText action.field = false) →
    operation.Removes field value batch →
    after.customFields = before.customFields.filter fun held => !held.isNamed field
  /-- Of the write and the additional actions, the last one on a name decides. -/
  set : before.locked = false → isBlankText field = false →
    (∀ action ∈ actions, isBlankText action.field = false) →
    ¬ operation.Removes field value batch → ∀ name,
    after.field? name =
      AdditionalAction.decided ({ field, action := .set, value } :: actions) name
        (before.field? name)

theorem toggled_edit (operation : Operation) (field value : String) (asks : Bool)
    (actions : List AdditionalAction) (batch : List Record) (record : Record) :
    Toggled operation field value actions batch record
      ((MenuAction.toggle field value operation asks actions).edit batch record).record := by
  have confined :=
    (MenuAction.toggle field value operation asks actions).edit_confined batch record
  refine ⟨confined.fieldsOnly, confined.locked, ?_, ?_⟩
  · intro unlocked fieldNamed _ always
    rw [MenuAction.edit_record_of_unlocked (MenuAction.writes_of_removes asks actions record always)
      unlocked (List.forall_mem_singleton.mpr fieldNamed)]
    rfl
  · intro unlocked fieldNamed named never name
    rw [MenuAction.edit_record_of_unlocked
      (MenuAction.writes_of_not_removes asks actions record never) unlocked
      (List.forall_mem_cons.mpr ⟨fieldNamed, named⟩)]
    exact AdditionalAction.get?_foldl_change _ _ name

/-- An activated toggle moves every record of the batch the same way. -/
theorem toggle_batch {σ : Type} (host : Host (StateM σ)) (settings : Settings) (state : σ)
    (node : MenuNode) (targets : List Record) (field value : String) (operation : Operation)
    (asks : Bool) (actions : List AdditionalAction)
    (proceeds : Proceeds host settings state node targets
      (.toggle field value operation asks actions)) :
    List.Forall₂ (Toggled operation field value actions targets) targets
      ((node.activate host settings targets).run state).1.targets := by
  rw [targets_of_proceeds proceeds, List.forall₂_map_right_iff, List.forall₂_same]
  exact fun record _ => toggled_edit operation field value asks actions targets record

/-- A record without the field gets the value of the additional action, which comes last. -/
theorem toggle_batch_last_wins :
    let quake : Record := { id := "1", title := "Quake" }
    let action : AdditionalAction := { field := "GENRE", action := .set, value := "Action" }
    let node : MenuNode :=
      { key := "Shooter", caption := "Shooter"
        kind := .action (.toggle "Genre" "Shooter" .toggle false [action]) }
    ∃ after, ((node.activate .agreeable {} [quake]).run ()).1.targets = [after] ∧
      after.field? "genre" = some "Action" := by
  intro quake action node
  have toggled := toggle_batch .agreeable {} () node [quake] "Genre" "Shooter" .toggle false
    [action] (proceeds_agreeable {} rfl (by simp))
  obtain ⟨after, rest, first, others, equal⟩ := List.forall₂_cons_left_iff.mp toggled
  rw [List.forall₂_nil_left_iff.mp others] at equal
  refine ⟨after, equal, ?_⟩
  have never : ¬ Operation.toggle.Removes "Genre" "Shooter" [quake] := by
    rw [← Operation.removes_iff]
    decide
  rw [first.set rfl (by decide) (by decide) never]
  decide

end FieldMenu
