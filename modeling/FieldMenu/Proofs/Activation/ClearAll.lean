import FieldMenu.Proofs.Activation.Count
import FieldMenu.Proofs.Record.Clear
import FieldMenu.Proofs.Record.Naming
import Mathlib.Algebra.GroupWithZero.Nat
import Mathlib.Algebra.Order.BigOperators.Group.List

namespace FieldMenu

open Text

namespace Record

theorem change?_dropAll {record : Record} (unlocked : record.locked = false) :
    record.dropAll.change? =
      if record.isClearable then
        some
          { changed := !record.customFields.isEmpty
            fieldsRemoved := (firstSpellings record.fieldNames).length }
      else none := by
  cases clearable : record.isClearable with
  | true =>
      rw [dropAll_of_isClearable unlocked clearable]
      rfl
  | false =>
      have ended := record.dropAll_follows.refusal?_eq
      rw [firstRefusal?_clearances unlocked, Edited.refusal?] at ended
      rw [Edited.change?]
      cases outcome : record.dropAll.outcome with
      | error refusal => rfl
      | ok change =>
          rw [outcome, eq_comm, Option.map_eq_none_iff, find?_isBlankText_eq_none_iff,
            clearable] at ended
          cases ended

end Record

namespace MenuAction

variable {batch : List Record} {record : Record}

def takes (action : MenuAction) (batch : List Record) (record : Record) : Nat :=
  ((action.edit batch record).change?.map Change.fieldsRemoved).getD 0

theorem report_fieldsRemoved (action : MenuAction) (batch : List Record) :
    (action.report batch).fieldsRemoved = (batch.map (action.takes batch)).sum := by
  have total (results : List (Edited Change)) :
      ((results.filterMap Edited.change?).map Change.fieldsRemoved).sum =
        (results.map fun edited => (edited.change?.map Change.fieldsRemoved).getD 0).sum := by
    induction results with
    | nil => rfl
    | cons edited results ih =>
        cases told : edited.change? with
        | none =>
            rw [List.filterMap_cons_none told, List.map_cons, List.sum_cons, told, ih]
            exact (Nat.zero_add _).symm
        | some change =>
            rw [List.filterMap_cons_some told, List.map_cons, List.map_cons, List.sum_cons,
              List.sum_cons, told, ih]
            rfl
  simp only [report, ← List.sum_eq_foldr, total, results, List.map_map]
  rfl

theorem counts_clearAll (unlocked : record.locked = false) :
    clearAll.counts batch record = (record.isClearable && !record.customFields.isEmpty) := by
  show (record.dropAll.change?.map Change.changed).getD false = _
  rw [Record.change?_dropAll unlocked]
  cases record.isClearable <;> rfl

theorem takes_clearAll (unlocked : record.locked = false) :
    clearAll.takes batch record =
      if record.isClearable then (firstSpellings record.fieldNames).length else 0 := by
  show (record.dropAll.change?.map Change.fieldsRemoved).getD 0 = _
  rw [Record.change?_dropAll unlocked]
  cases record.isClearable <;> rfl

end MenuAction

structure Cleared (before after : Record) : Prop where
  emptied : before.isClearable = true → after = { before with customFields := [] }
  /-- The names in front of the first blank one are taken, and its own field is left. -/
  stopped : ∀ front name rest, before.fieldNames = front ++ name :: rest →
    (∀ other ∈ front, isBlankText other = false) → isBlankText name = true →
    after = before.without front ∧ after.customFields ≠ []

/-- Nothing is left, nothing has failed, and every field has been counted. -/
structure ClearedExactly (before after : List Record) (report : ActivationReport) : Prop where
  empty : ∀ record ∈ after, record.customFields = []
  failures : report.failures = []
  fieldsRemoved : report.fieldsRemoved = (before.map fun record => record.customFields.length).sum
  changed : report.changed = before.countP fun record => !record.customFields.isEmpty

section

variable {targets : List Record} (unlocked : ∀ record ∈ targets, record.locked = false)
include unlocked

theorem failures_clearAll :
    (MenuAction.clearAll.report targets).failures = targets.filterMap fun record =>
      (record.fieldNames.find? isBlankText).map fun name =>
        { entity := record.entityId, error := (EditError.invalidFieldName name).message } := by
  rw [MenuAction.report_failures_of_unlocked _ unlocked]
  refine List.filterMap_congr fun record _ => ?_
  show (record.clearances.find? _).map _ = _
  rw [Record.clearances_eq, List.find?_map, Option.map_map]
  rfl

theorem fieldsRemoved_clearAll :
    (MenuAction.clearAll.report targets).fieldsRemoved = (targets.map fun record =>
      if record.isClearable then (firstSpellings record.fieldNames).length else 0).sum := by
  rw [MenuAction.report_fieldsRemoved]
  refine congrArg List.sum (List.map_congr_left fun record member => ?_)
  exact MenuAction.takes_clearAll (unlocked record member)

theorem changed_clearAll :
    (MenuAction.clearAll.report targets).changed = targets.countP fun record =>
      record.isClearable && !record.customFields.isEmpty := by
  rw [MenuAction.report_changed]
  refine List.countP_congr fun record member => ?_
  rw [MenuAction.counts_clearAll (unlocked record member)]

theorem forall_isClearable_iff :
    (MenuAction.clearAll.report targets).failures = [] ↔
      ∀ record ∈ targets, record.isClearable = true := by
  rw [failures_clearAll unlocked, List.filterMap_eq_nil_iff]
  refine forall₂_congr fun record _ => ?_
  rw [Option.map_eq_none_iff, Record.find?_isBlankText_eq_none_iff]

theorem fieldsRemoved_clearAll_iff
    (clearable : ∀ record ∈ targets, record.isClearable = true) :
    (MenuAction.clearAll.report targets).fieldsRemoved =
        (targets.map fun record => record.customFields.length).sum ↔
      ∀ record ∈ targets, DistinctNames record.fieldNames := by
  have counted : (MenuAction.clearAll.report targets).fieldsRemoved =
      (targets.map fun record => (firstSpellings record.fieldNames).length).sum := by
    rw [fieldsRemoved_clearAll unlocked]
    refine congrArg List.sum (List.map_congr_left fun record member => ?_)
    rw [clearable record member, if_pos rfl]
  have fields (record : Record) : record.customFields.length = record.fieldNames.length :=
    (List.length_map _).symm
  simp only [counted, fields]
  constructor
  · intro same record member
    refine length_firstSpellings_eq_iff.mp ?_
    by_contra different
    -- No record counts more names than it has, so one that counts fewer makes the sum smaller.
    have fewer (other : Record) :
        (firstSpellings other.fieldNames).length ≤ other.fieldNames.length :=
      (firstSpellings_sublist _).length_le
    exact absurd same (Nat.ne_of_lt (List.sum_lt_sum _ _ (fun other _ => fewer other)
      ⟨record, member, Nat.lt_of_le_of_ne (fewer record) different⟩))
  · intro distinct
    refine congrArg List.sum (List.map_congr_left fun record member => ?_)
    exact length_firstSpellings_eq_iff.mpr (distinct record member)

theorem clearedExactly_iff :
    ClearedExactly targets (targets.map fun record => record.dropAll.record)
        (MenuAction.clearAll.report targets) ↔
      ∀ record ∈ targets, record.customFields.WellNamed := by
  have wellNamed_iff (record : Record) : record.customFields.WellNamed ↔
      record.isClearable = true ∧ DistinctNames record.fieldNames := by
    rw [FieldStore.wellNamed_iff, Record.isClearable_iff]
    rfl
  simp only [wellNamed_iff, forall_and]
  constructor
  · intro exact
    have clearable := (forall_isClearable_iff unlocked).mp exact.failures
    exact ⟨clearable, (fieldsRemoved_clearAll_iff unlocked clearable).mp exact.fieldsRemoved⟩
  · rintro ⟨clearable, distinct⟩
    refine ⟨?_, (forall_isClearable_iff unlocked).mpr clearable,
      (fieldsRemoved_clearAll_iff unlocked clearable).mpr distinct, ?_⟩
    · rw [List.forall_mem_map]
      intro record member
      rw [Record.dropAll_of_isClearable (unlocked record member) (clearable record member)]
    · rw [changed_clearAll unlocked]
      refine List.countP_congr fun record member => ?_
      rw [clearable record member, Bool.true_and]

end

/-- Clearing a batch of unlocked records leaves nothing, fails nowhere and counts every field just
where no record has a blank name or a name in two spellings.  In any case the report names the
records with a blank name, which keep it, and counts the spellings apart for the others. -/
theorem clear_all_batch {σ : Type} (host : Host (StateM σ)) (settings : Settings) (state : σ)
    (node : MenuNode) (targets : List Record)
    (proceeds : Proceeds host settings state node targets .clearAll)
    (unlocked : ∀ record ∈ targets, record.locked = false) :
    let run := ((node.activate host settings targets).run state).1
    let report := MenuAction.clearAll.report targets
    (∃ answer, run.outcome = Outcome.ofSaved report answer) ∧
      (ClearedExactly targets run.targets report ↔
        ∀ record ∈ targets, record.customFields.WellNamed) ∧
      List.Forall₂ Cleared targets run.targets ∧
      report.failures = targets.filterMap (fun record =>
        (record.fieldNames.find? isBlankText).map fun name =>
          { entity := record.entityId, error := (EditError.invalidFieldName name).message }) ∧
      report.fieldsRemoved = (targets.map fun record =>
        if record.isClearable then (firstSpellings record.fieldNames).length else 0).sum ∧
      report.changed = targets.countP fun record =>
        record.isClearable && !record.customFields.isEmpty := by
  intro run report
  have after : run.targets = targets.map fun record => record.dropAll.record :=
    targets_of_proceeds proceeds
  rw [after, List.forall₂_map_right_iff, List.forall₂_same]
  refine ⟨outcome_of_proceeds proceeds, clearedExactly_iff unlocked, fun record member => ?_,
    failures_clearAll unlocked, fieldsRemoved_clearAll unlocked, changed_clearAll unlocked⟩
  refine ⟨fun clearable => ?_, fun front name rest => ?_⟩
  · rw [Record.dropAll_of_isClearable (unlocked record member) clearable]
  · exact Record.dropAll_of_blank (unlocked record member)

/-- Of a record with two names, one with two spellings of a name and one with a blank name, the
first two are emptied; the last one fails and keeps what stands from the blank name on. -/
theorem clear_all_batch_of_three :
    let doom : Record :=
      { id := "1", title := "Doom"
        customFields :=
          [{ name := "Status", value := "Beaten" }, { name := "Mode", value := "LAN" }] }
    let quake : Record :=
      { id := "2", title := "Quake"
        customFields := [{ name := "Tag", value := "old" }, { name := "TAG", value := "new" }] }
    let myst : Record :=
      { id := "3", title := "Myst"
        customFields := [{ name := "Tag", value := "old" }, { name := " ", value := "lost" }] }
    let node : MenuNode := { key := "Clear", caption := "Clear", kind := .action .clearAll }
    let report := MenuAction.clearAll.report [doom, quake, myst]
    report.failures = [{ entity := "Myst (3)", error := "Invalid field name ' '" }] ∧
      report.fieldsRemoved = 3 ∧ report.changed = 2 ∧
      ∃ after, ((node.activate .agreeable {} [doom, quake, myst]).run ()).1.targets =
          [{ doom with customFields := [] }, { quake with customFields := [] }, after] ∧
        after.customFields = [{ name := " ", value := "lost" }] := by
  intro doom quake myst node report
  obtain ⟨-, -, cleared, failures, fieldsRemoved, changed⟩ := clear_all_batch .agreeable {} () node
    [doom, quake, myst] (proceeds_agreeable {} rfl (List.cons_ne_nil _ _))
    (by simp [doom, quake, myst])
  obtain ⟨first, others, doomCleared, restCleared, split⟩ := List.forall₂_cons_left_iff.mp cleared
  obtain ⟨second, last, quakeCleared, lastCleared, othersSplit⟩ :=
    List.forall₂_cons_left_iff.mp restCleared
  obtain ⟨after, none, mystCleared, nothing, lastSplit⟩ := List.forall₂_cons_left_iff.mp lastCleared
  rw [othersSplit, lastSplit, List.forall₂_nil_left_iff.mp nothing,
    doomCleared.emptied (by decide), quakeCleared.emptied (by decide)] at split
  refine ⟨failures.trans (by decide), fieldsRemoved.trans (by decide), changed.trans (by decide),
    after, split, ?_⟩
  rw [(mystCleared.stopped ["Tag"] " " [] rfl (by decide) (by decide)).1]
  decide

/-- Two fields go and one is counted; a blank name is refused, and its record keeps it. -/
theorem clear_all_inexact :
    let quake : Record :=
      { id := "2", title := "Quake"
        customFields := [{ name := "Tag", value := "old" }, { name := "TAG", value := "new" }] }
    let myst : Record :=
      { id := "3", title := "Myst", customFields := [{ name := " ", value := "lost" }] }
    let node : MenuNode := { key := "Clear", caption := "Clear", kind := .action .clearAll }
    let activate (target : Record) := ((node.activate .agreeable {} [target]).run ()).1
    (∃ report, (activate quake).outcome = .ok (.applied report) ∧ report.fieldsRemoved = 1 ∧
        (activate quake).targets = [{ quake with customFields := [] }]) ∧
      ∃ report, (activate myst).outcome = .ok (.applied report) ∧
        report.failures = [{ entity := "Myst (3)", error := "Invalid field name ' '" }] ∧
        (activate myst).targets = [myst] := by
  intro quake myst node activate
  exact ⟨⟨_, rfl, by decide, by decide⟩, _, rfl, by decide, by decide⟩

end FieldMenu
