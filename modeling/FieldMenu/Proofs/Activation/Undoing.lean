import FieldMenu.Proofs.Activation.Repetition
import FieldMenu.Proofs.Activation.Toggle
import FieldMenu.Proofs.Record.Naming

namespace FieldMenu

open Text

namespace Record

variable {record : Record} {field : String}

theorem field?_eq_none (absent : record.customFields.has field = false) :
    record.field? field = none := by
  rwa [FieldStore.has_eq_isSome_get?, Option.isSome_eq_false_iff,
    Option.isNone_iff_eq_none] at absent

theorem written_setting (absent : record.customFields.has field = false) (value : String) :
    record.written [.setting field value] = record.appendField field value :=
  set_eq_appendField absent value

theorem written_removing_appendField (absent : record.customFields.has field = false)
    (value : String) : (record.appendField field value).written [.removing field] = record := by
  have left : FieldStore.remove field (record.customFields ++ [{ name := field, value }]) =
      record.customFields := by
    rw [FieldStore.remove, List.filter_append, ← FieldStore.remove,
      FieldStore.remove_eq_self_of_not_has _ _ absent]
    simp [CustomField.isNamed]
  exact congrArg (fun fields => { record with customFields := fields }) left

theorem field?_appendField (absent : record.customFields.has field = false) (value : String) :
    (record.appendField field value).field? field = some value := by
  rw [← written_setting absent]
  exact FieldStore.get?_set_self record.customFields field value

end Record

namespace Operation

variable {field value : String} {batch : List Record}

theorem not_removes_of_absent (nonempty : batch ≠ [])
    (absent : ∀ record ∈ batch, record.customFields.has field = false) (value : String) :
    ¬ Operation.toggle.Removes field value batch := by
  rintro (other | ⟨-, all⟩)
  · cases other
  · obtain ⟨first, member⟩ := List.exists_mem_of_ne_nil batch nonempty
    obtain ⟨held, there, -⟩ := all first member
    rw [Record.field?_eq_none (absent first member)] at there
    cases there

theorem removes_of_held (held : ∀ record ∈ batch, record.field? field = some value) :
    Operation.toggle.Removes field value batch :=
  .inr ⟨rfl, fun record member => ⟨value, held record member, sameIgnoringCase_self value⟩⟩

end Operation

namespace MenuAction

variable {field value : String} {asks : Bool} {batch : List Record} {record : Record}

theorem changed_eq_length {operation : Operation}
    (unlocked : ∀ record ∈ batch, record.locked = false) (named : isBlankText field = false)
    (different : ∀ record ∈ batch, record.customFields ≠
      ((MenuAction.toggle field value operation asks []).edit batch record).record.customFields) :
    ((MenuAction.toggle field value operation asks []).report batch).changed = batch.length := by
  have plain : (MenuAction.toggle field value operation asks []).Plain :=
    List.pairwise_singleton _ _
  rw [report_changed, List.countP_eq_length]
  intro record member
  have free : record.firstRefusal?
      ((MenuAction.toggle field value operation asks []).writes batch record) = none := by
    apply Record.firstRefusal?_of_unlocked (unlocked record member)
    rw [writes]
    split <;> exact List.forall_mem_singleton.mpr named
  exact (counts_iff plain (.inl (Record.accepted_of_none free))).mpr (different record member)

section

variable (asks) (unlocked : ∀ record ∈ batch, record.locked = false)
  (named : isBlankText field = false)
  (absent : ∀ record ∈ batch, record.customFields.has field = false)

include unlocked named absent

theorem edit_of_absent (nonempty : batch ≠ []) (member : record ∈ batch) :
    ((MenuAction.toggle field value .toggle asks []).edit batch record).record =
      record.appendField field value := by
  have sets := Operation.not_removes_of_absent nonempty absent value
  rw [edit_record_of_unlocked (writes_of_not_removes asks [] record sets) (unlocked record member)
    (List.forall_mem_singleton.mpr named), Record.written_setting (absent record member)]

theorem edit_of_appended (value : String) (member : record ∈ batch) :
    ((MenuAction.toggle field value .toggle asks []).edit
        (batch.map fun record => record.appendField field value)
        (record.appendField field value)).record = record := by
  have held : ∀ after ∈ batch.map (fun record => record.appendField field value),
      after.field? field = some value := by
    rw [List.forall_mem_map]
    exact fun record member => Record.field?_appendField (absent record member) value
  have removes := Operation.removes_of_held held
  rw [edit_record_of_unlocked
    (writes_of_removes asks [] (record.appendField field value) removes)
    (unlocked record member) (List.forall_mem_singleton.mpr named),
    Record.written_removing_appendField (absent record member)]

end

end MenuAction

theorem Record.customFields_appendField_ne (record : Record) (field value : String) :
    (record.appendField field value).customFields ≠ record.customFields :=
  fun same => List.cons_ne_nil _ _ (List.self_eq_append_right.mp same.symm)

/-- A toggle adds its field to records that do not hold it, and the second activation takes just
that field away again. -/
theorem toggle_undone {σ τ : Type} (host : Host (StateM σ)) (host' : Host (StateM τ))
    (settings settings' : Settings) (state : σ) (state' : τ) (node : MenuNode)
    (targets : List Record) (field value : String) (asks : Bool)
    (proceeds : Proceeds host settings state node targets (.toggle field value .toggle asks []))
    (again : Agreed host' settings' state' (.toggle field value .toggle asks []) targets)
    (unlocked : ∀ record ∈ targets, record.locked = false) (named : isBlankText field = false)
    (absent : ∀ record ∈ targets, record.customFields.has field = false) :
    let action : MenuAction := .toggle field value .toggle asks []
    let once := ((node.activate host settings targets).run state).1
    let twice := ((node.activate host' settings' once.targets).run state').1
    (∃ answer, once.outcome = Outcome.ofSaved (action.report targets) answer) ∧
      (action.report targets).changed = targets.length ∧
      once.targets = targets.map (fun record => record.appendField field value) ∧
      (∃ answer, twice.outcome = Outcome.ofSaved (action.report once.targets) answer) ∧
      (action.report once.targets).changed = targets.length ∧
      twice.targets = targets := by
  intro action once twice
  have added : once.targets = targets.map fun record => record.appendField field value :=
    (targets_of_proceeds proceeds).trans (List.map_congr_left fun record member =>
      MenuAction.edit_of_absent asks unlocked named absent proceeds.nonempty member)
  have size : once.targets.length = targets.length := by
    rw [added, List.length_map]
  have proceedsAgain : Proceeds host' settings' state' node once.targets action :=
    again.proceeds proceeds.does proceeds.nonempty size
  refine ⟨outcome_of_proceeds proceeds, ?_, added, outcome_of_proceeds proceedsAgain, ?_, ?_⟩
  · refine MenuAction.changed_eq_length unlocked named fun record member => ?_
    rw [MenuAction.edit_of_absent asks unlocked named absent proceeds.nonempty member]
    exact (record.customFields_appendField_ne field value).symm
  · have unlockedAgain : ∀ record ∈ once.targets, record.locked = false := by
      rw [added, List.forall_mem_map]
      exact unlocked
    rw [← size]
    refine MenuAction.changed_eq_length unlockedAgain named ?_
    rw [added, List.forall_mem_map]
    intro record member
    rw [MenuAction.edit_of_appended asks unlocked named absent value member]
    exact record.customFields_appendField_ne field value
  · refine (targets_of_proceeds proceedsAgain).trans ?_
    rw [added, List.map_map]
    refine (List.map_congr_left fun record member => ?_).trans (List.map_id targets)
    exact MenuAction.edit_of_appended asks unlocked named absent value member

/-- Two records, one of them with another field, and an empty value: both get the field and lose it
again. -/
theorem toggle_undone_empty :
    let doom : Record :=
      { id := "1", title := "Doom", customFields := [{ name := "Status", value := "Beaten" }] }
    let quake : Record := { id := "2", title := "Quake" }
    let action : MenuAction := .toggle "Backlog" "" .toggle true []
    let node : MenuNode := { key := "Backlog", caption := "Backlog", kind := .action action }
    let once := ((node.activate .agreeable {} [doom, quake]).run ()).1
    let twice := ((node.activate .agreeable {} once.targets).run ()).1
    (once.targets.map fun record => record.field? "backlog") = [some "", some ""] ∧
      (action.report once.targets).changed = 2 ∧ twice.targets = [doom, quake] := by
  intro doom quake action node once twice
  obtain ⟨-, -, added, -, changed, restored⟩ := toggle_undone .agreeable .agreeable {} {} () () node
    [doom, quake] "Backlog" "" true (proceeds_agreeable {} rfl (List.cons_ne_nil _ _))
    (fun _ => rfl) (by decide) (by decide) (by decide)
  refine ⟨?_, changed, restored⟩
  rw [added]
  decide

end FieldMenu
