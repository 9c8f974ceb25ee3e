import FieldMenu.Proofs.Activation.Plan
import FieldMenu.Proofs.Record.Alteration

namespace FieldMenu

open AdditionalAction (Apart NeverUndone alters)

namespace MenuAction

/-- An entry whose writes are on different fields, and whose token can be read back. -/
def Plain : MenuAction → Prop
  | .toggle field value _ _ actions => Apart (.setting field value :: actions)
  | .option field token _ actions => Apart (.setting field token :: actions) ∧ Token.IsToken token
  | .clearField _ | .clearAll => True

theorem neverUndone_writes {action : MenuAction} (plain : action.Plain) (batch : List Record)
    (record : Record) : NeverUndone (action.writes batch record) := by
  cases action with
  | toggle field value operation asks actions =>
      rw [writes]
      split
      · exact .inl (List.pairwise_singleton _ _)
      · exact .inl plain
  | option field token asks actions =>
      obtain ⟨others, rest⟩ := List.pairwise_cons.mp plain.1
      rw [writes]
      split
      · rw [Record.withdrawals]
        split
        · exact .inl .nil
        · exact .inl (List.pairwise_singleton _ _)
        · exact .inl (List.pairwise_singleton _ _)
      · rw [Record.additions]
        split
        · exact .inl (List.pairwise_cons.mpr ⟨others, rest⟩)
        · exact .inl rest
  | clearField field => exact .inl (List.pairwise_singleton _ _)
  | clearAll =>
      refine .inr fun write member => ?_
      obtain ⟨held, _, rfl⟩ := List.mem_map.mp member
      rfl

theorem edit_tells {action : MenuAction} (plain : action.Plain) (batch : List Record)
    (record : Record) :
    (action.edit batch record).Tells Change.changed record (action.writes batch record) := by
  cases action with
  | toggle field value operation asks actions =>
      rw [edit, writes]
      split
      · exact record.dropField_tells field
      · exact record.setWith_tells field value actions
  | option field token asks actions =>
      rw [edit, writes]
      split
      · exact record.dropToken_tells field token
      · exact record.addTokenWith_tells field actions plain.2
  | clearField field => exact record.dropField_tells field
  | clearAll => exact record.dropAll_tells

def counts (action : MenuAction) (batch : List Record) (record : Record) : Bool :=
  ((action.edit batch record).change?.map Change.changed).getD false

theorem report_changed (action : MenuAction) (batch : List Record) :
    (action.report batch).changed = batch.countP (action.counts batch) := by
  simp only [report, results, List.countP_filterMap, List.countP_map]
  rfl

theorem counts_of_tells {action : MenuAction} {batch : List Record} {record : Record}
    (tells : (action.edit batch record).Tells Change.changed record
      (action.writes batch record)) :
    action.counts batch record =
      ((record.firstRefusal? (action.writes batch record)).isNone &&
        alters record.customFields (action.writes batch record)) := by
  have ended := (action.edit_follows batch record).refusal?_eq
  rw [← ended, counts, Edited.change?, Edited.refusal?]
  cases outcome : (action.edit batch record).outcome with
  | error refusal => rfl
  | ok change => exact tells change outcome

theorem counts_iff {action : MenuAction} {batch : List Record} {record : Record}
    (plain : action.Plain)
    (whole : record.accepted (action.writes batch record) = action.writes batch record ∨
      record.accepted (action.writes batch record) = []) :
    action.counts batch record = true ↔
      record.customFields ≠ (action.edit batch record).record.customFields := by
  rw [counts_of_tells (edit_tells plain batch record), edit_record, Record.written, ne_comm]
  cases refused : record.firstRefusal? (action.writes batch record) with
  | none =>
      rw [Record.accepted_of_none refused,
        AdditionalAction.foldl_change_ne_iff (neverUndone_writes plain batch record)]
      rfl
  | some refusal =>
      have nothing : record.accepted (action.writes batch record) = [] := by
        rcases whole with all | none
        · cases refused.symm.trans (Record.firstRefusal?_of_accepted all)
        · exact none
      rw [nothing]
      exact iff_of_false Bool.false_ne_true fun different => different rfl

end MenuAction

/-- The report counts the records whose custom fields differ, where the entry has no write that can
undo another, and no record refuses a write after it has taken one. -/
theorem changed_batch {σ : Type} (host : Host (StateM σ)) (settings : Settings) (state : σ)
    (node : MenuNode) (targets : List Record) (report : ActivationReport)
    (applied : ((node.activate host settings targets).run state).1.outcome =
      .ok (.applied report))
    (plain : ∀ action, node.action? = some action → action.Plain)
    (whole : ∀ action, node.action? = some action → ∀ record ∈ targets,
      record.accepted (action.writes targets record) = action.writes targets record ∨
        record.accepted (action.writes targets record) = []) :
    report.changed =
      (targets.zip ((node.activate host settings targets).run state).1.targets).countP
        fun (before, after) => before.customFields != after.customFields := by
  obtain ⟨action, proceeds, rfl⟩ := proceeds_of_applied applied
  rw [targets_of_proceeds proceeds, ← List.map_prod_left_eq_zip, List.countP_map,
    action.report_changed]
  refine List.countP_congr fun record member => ?_
  rw [MenuAction.counts_iff (plain action proceeds.does) (whole action proceeds.does record member)]
  exact bne_iff_ne.symm

/-- Of a record without the value, one that has it and a locked one, the first counts. -/
theorem changed_batch_of_three :
    let doom : Record := { id := "1", title := "Doom" }
    let quake : Record :=
      { id := "2", title := "Quake", customFields := [{ name := "status", value := "Beaten" }] }
    let myst : Record := { id := "3", title := "Myst", locked := true }
    let node : MenuNode :=
      { key := "Beaten", caption := "Beaten"
        kind := .action (.toggle "Status" "Beaten" .set false []) }
    ∃ report, ((node.activate .agreeable {} [doom, quake, myst]).run ()).1.outcome =
      .ok (.applied report) ∧ report.changed = 1 := by
  intro doom quake myst node
  have plain : ∀ action, node.action? = some action → action.Plain := by
    rintro action does
    cases does
    exact List.pairwise_singleton _ _
  have whole : ∀ action, node.action? = some action → ∀ record ∈ [doom, quake, myst],
      record.accepted (action.writes [doom, quake, myst] record) =
          action.writes [doom, quake, myst] record ∨
        record.accepted (action.writes [doom, quake, myst] record) = [] := by
    rintro action does
    cases does
    decide
  refine ⟨_, rfl, ?_⟩
  rw [changed_batch .agreeable {} () node [doom, quake, myst] _ rfl plain whole]
  decide

/-- A record whose value is set, and set back by an action on the same field, counts as changed
though its fields are what they were. -/
theorem counted_without_change :
    let doom : Record :=
      { id := "1", title := "Doom", customFields := [{ name := "Status", value := "Playing" }] }
    let back : AdditionalAction := { field := "status", action := .set, value := "Playing" }
    let node : MenuNode :=
      { key := "Beaten", caption := "Beaten"
        kind := .action (.toggle "Status" "Beaten" .set false [back]) }
    let run := ((node.activate .agreeable {} [doom]).run ()).1
    ∃ report, run.outcome = .ok (.applied report) ∧ report.changed = 1 ∧ run.targets = [doom] := by
  intro doom back node run
  refine ⟨_, rfl, by decide, by decide⟩

end FieldMenu
