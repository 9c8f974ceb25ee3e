import FieldMenu.Proofs.Activation.Protocol
import FieldMenu.Proofs.Record.Plan
import Mathlib.Data.List.Forall2

namespace FieldMenu

namespace MenuAction

def writes (action : MenuAction) (batch : List Record) (record : Record) : List AdditionalAction :=
  match action with
  | .toggle field value operation _ actions =>
      if operation.removes field value batch then [.removing field]
      else .setting field value :: actions
  | .option field token _ actions =>
      if batch.all fun record => record.holdsToken field token then record.withdrawals field token
      else record.additions field token ++ actions
  | .clearField field => [.removing field]
  | .clearAll => record.clearances

theorem edit_follows (action : MenuAction) (batch : List Record) (record : Record) :
    (action.edit batch record).Follows record (action.writes batch record) := by
  cases action with
  | toggle field value operation asks actions =>
      rw [edit, writes]
      split
      · exact record.dropField_follows field
      · exact record.setWith_follows field value actions
  | option field token asks actions =>
      rw [edit, writes]
      split
      · exact record.dropToken_follows field token
      · exact record.addTokenWith_follows field token actions
  | clearField field => exact record.dropField_follows field
  | clearAll => exact record.dropAll_follows

theorem edit_confined (action : MenuAction) (batch : List Record) (record : Record) :
    (action.edit batch record).Confined record :=
  (action.edit_follows batch record).confined

theorem edit_record (action : MenuAction) (batch : List Record) (record : Record) :
    (action.edit batch record).record =
      record.written (record.accepted (action.writes batch record)) :=
  (action.edit_follows batch record).record_eq

theorem edit_record_of_none {action : MenuAction} {batch : List Record} {record : Record}
    (free : record.firstRefusal? (action.writes batch record) = none) :
    (action.edit batch record).record = record.written (action.writes batch record) := by
  rw [edit_record, Record.accepted_of_none free]

theorem edit_record_of_unlocked {action : MenuAction} {batch : List Record} {record : Record}
    {writes : List AdditionalAction} (does : action.writes batch record = writes)
    (unlocked : record.locked = false)
    (named : ∀ write ∈ writes, Text.isBlankText write.field = false) :
    (action.edit batch record).record = record.written writes := by
  subst does
  exact edit_record_of_none (Record.firstRefusal?_of_unlocked unlocked named)

theorem filter_edit {action : MenuAction} {batch : List Record} {record : Record}
    {keep : CustomField → Bool}
    (others : ∀ write ∈ action.writes batch record, ∀ held : CustomField,
      held.isNamed write.field = true → keep held = false) :
    (action.edit batch record).record.customFields.filter keep =
      record.customFields.filter keep := by
  rw [edit_record]
  exact AdditionalAction.filter_foldl_change keep
    (fun write member => others write (Record.accepted_subset member)) record.customFields

theorem failure?_edit (action : MenuAction) (batch : List Record) (record : Record) :
    (action.edit batch record).failure? =
      (record.firstRefusal? (action.writes batch record)).map fun refusal =>
        { entity := record.entityId, error := refusal.message } := by
  have ended := (action.edit_follows batch record).refusal?_eq
  rw [← ended, Edited.failure?, Edited.refusal?, edit_record]
  cases (action.edit batch record).outcome <;> rfl

theorem report_failures (action : MenuAction) (batch : List Record) :
    (action.report batch).failures =
      batch.filterMap fun record =>
        (record.firstRefusal? (action.writes batch record)).map fun refusal =>
          { entity := record.entityId, error := refusal.message } := by
  simp only [report, results, List.filterMap_map]
  exact List.filterMap_congr fun record _ => action.failure?_edit batch record

theorem report_failures_of_unlocked (action : MenuAction) {batch : List Record}
    (unlocked : ∀ record ∈ batch, record.locked = false) :
    (action.report batch).failures =
      batch.filterMap fun record =>
        ((action.writes batch record).find? fun write => Text.isBlankText write.field).map
          fun write =>
            { entity := record.entityId
              error := (EditError.invalidFieldName write.field).message } := by
  rw [report_failures]
  refine List.filterMap_congr fun record member => ?_
  rw [Record.firstRefusal?_eq_find? (unlocked record member), Option.map_map]
  rfl

end MenuAction

structure Processed (writes : List AdditionalAction) (before after : Record) : Prop where
  /-- A record that refuses nothing has all of its writes. -/
  completed : before.firstRefusal? writes = none → after = before.written writes
  /-- Otherwise it has those in front of the first refused one, and no others. -/
  stopped : ∀ refusal, before.firstRefusal? writes = some refusal →
    ∃ done refused later, writes = done ++ refused :: later ∧
      (∀ write ∈ done, before.refusal? write.field = none) ∧
      before.refusal? refused.field = some refusal ∧ after = before.written done
  /-- One that refuses the first is as it was. -/
  untouched : (∀ write ∈ writes.head?, before.refusal? write.field ≠ none) → after = before
  locked : before.locked = true → after = before

theorem processed_edit (action : MenuAction) (batch : List Record) (record : Record) :
    Processed (action.writes batch record) record (action.edit batch record).record := by
  refine ⟨MenuAction.edit_record_of_none, fun refusal refused => ?_, fun refused => ?_,
    fun locked => ?_⟩
  · obtain ⟨write, later, split, last⟩ := Record.exists_refused refused
    exact ⟨_, write, later, split, fun _ member => Record.refusal?_of_mem_accepted member, last,
      action.edit_record batch record⟩
  · rw [action.edit_record batch record, Record.accepted_of_refused refused]
    rfl
  · exact (action.edit_confined batch record).locked locked

/-- An activation does all writes to the records that refuse none.  Every other record is named in
the report, and keeps the writes in front of the refused one. -/
theorem processed_batch {σ : Type} (host : Host (StateM σ)) (settings : Settings) (state : σ)
    (node : MenuNode) (targets : List Record) (action : MenuAction)
    (proceeds : Proceeds host settings state node targets action) :
    let run := ((node.activate host settings targets).run state).1
    let report := action.report targets
    (∃ answer, run.outcome = Outcome.ofSaved report answer) ∧
      report.failures = targets.filterMap (fun record =>
        (record.firstRefusal? (action.writes targets record)).map fun refusal =>
          { entity := record.entityId, error := refusal.message }) ∧
      List.Forall₂ (fun before after => Processed (action.writes targets before) before after)
        targets run.targets := by
  refine ⟨outcome_of_proceeds proceeds, action.report_failures targets, ?_⟩
  rw [targets_of_proceeds proceeds, List.forall₂_map_right_iff, List.forall₂_same]
  exact fun record _ => processed_edit action targets record

/-- A locked record in the batch stays as it is, and does not keep the other one from its writes. -/
theorem processed_batch_locked :
    let doom : Record := { id := "1", title := "Doom", locked := true }
    let quake : Record := { id := "2", title := "Quake" }
    let planned : AdditionalAction := { field := "Status", action := .set, value := "Planned" }
    let does : MenuAction := .toggle "Backlog" "true" .toggle false [planned]
    let node : MenuNode := { key := "Backlog", caption := "Backlog", kind := .action does }
    (does.report [doom, quake]).failures =
        [{ entity := "Doom (1)", error := "Entity 'Doom (1)' is read-only" }] ∧
      ∃ after, ((node.activate .agreeable {} [doom, quake]).run ()).1.targets = [doom, after] ∧
        after.customFields =
          [{ name := "Backlog", value := "true" }, { name := "Status", value := "Planned" }] := by
  intro doom quake planned does node
  obtain ⟨-, failures, processed⟩ := processed_batch .agreeable {} () node [doom, quake] does
    (proceeds_agreeable {} rfl (List.cons_ne_nil _ _))
  obtain ⟨first, rest, left, others, split⟩ := List.forall₂_cons_left_iff.mp processed
  obtain ⟨after, empty, right, nothing, last⟩ := List.forall₂_cons_left_iff.mp others
  rw [List.forall₂_nil_left_iff.mp nothing] at last
  refine ⟨failures.trans (by decide), after, ?_, ?_⟩
  · rw [split, last, left.locked rfl]
  · rw [right.completed (by decide)]
    decide

/-- A record that the report names as failed need not be as it was: this one has kept the write in
front of the refused one. -/
theorem failed_not_untouched :
    let doom : Record := { id := "1", title := "Doom" }
    let unnamed : AdditionalAction := { field := " ", action := .set, value := "true" }
    let node : MenuNode :=
      { key := "Beaten", caption := "Beaten"
        kind := .action (.toggle "Beaten" "true" .toggle false [unnamed]) }
    let run := ((node.activate .agreeable {} [doom]).run ()).1
    ∃ report after, run.outcome = .ok (.applied report) ∧
      report.failures = [{ entity := "Doom (1)", error := "Invalid field name ' '" }] ∧
      run.targets = [after] ∧ after.entityId = "Doom (1)" ∧
      after.customFields ≠ doom.customFields := by
  intro doom unnamed node run
  refine ⟨_, _, rfl, by decide, rfl, by decide, by decide⟩

end FieldMenu
