import FieldMenu.Proofs.Record.Edit
import Mathlib.Data.List.TakeWhile

/-!
The writes of an edit are known beforehand, and done up to the first that the record refuses.
-/

namespace FieldMenu

open Text

namespace AdditionalAction

def setting (field value : String) : AdditionalAction :=
  { field, action := .set, value }

def removing (field : String) : AdditionalAction :=
  { field, action := .remove, value := "" }

end AdditionalAction

namespace Record

def written (record : Record) (writes : List AdditionalAction) : Record :=
  { record with customFields := writes.foldl AdditionalAction.change record.customFields }

theorem write_of_none {record : Record} {name : String} {α : Type}
    (free : record.refusal? name = none) (fields : FieldStore) (result : α) :
    record.write name fields result =
      { record := { record with customFields := fields }, outcome := .ok result } := by
  rw [write, free]

theorem write_of_some {record : Record} {name : String} {α : Type} {refusal : EditError}
    (refused : record.refusal? name = some refusal) (fields : FieldStore) (result : α) :
    record.write name fields result = { record, outcome := .error refusal } := by
  rw [write, refused]

def firstRefusal? (record : Record) (writes : List AdditionalAction) : Option EditError :=
  writes.findSome? fun write => record.refusal? write.field

def accepted (record : Record) (writes : List AdditionalAction) : List AdditionalAction :=
  writes.takeWhile fun write => (record.refusal? write.field).isNone

section

variable {record : Record} {first second writes : List AdditionalAction}

@[simp] theorem refusal?_written (name : String) :
    (record.written first).refusal? name = record.refusal? name :=
  rfl

@[simp] theorem firstRefusal?_written :
    (record.written first).firstRefusal? second = record.firstRefusal? second :=
  rfl

@[simp] theorem accepted_written :
    (record.written first).accepted second = record.accepted second :=
  rfl

theorem written_written :
    (record.written first).written second = record.written (first ++ second) := by
  simp only [written, List.foldl_append]

theorem field?_written (record : Record) (writes : List AdditionalAction) (name : String) :
    (record.written writes).field? name =
      AdditionalAction.decided writes name (record.field? name) :=
  AdditionalAction.get?_foldl_change writes record.customFields name

theorem firstRefusal?_append :
    record.firstRefusal? (first ++ second) =
      (record.firstRefusal? first).or (record.firstRefusal? second) :=
  List.findSome?_append

theorem firstRefusal?_eq_none_iff :
    record.firstRefusal? writes = none ↔ ∀ write ∈ writes, record.refusal? write.field = none :=
  List.findSome?_eq_none_iff

theorem accepted_append_of_none (free : record.firstRefusal? first = none) :
    record.accepted (first ++ second) = first ++ record.accepted second := by
  refine List.takeWhile_append_of_pos fun write member => ?_
  rw [firstRefusal?_eq_none_iff.mp free write member]
  rfl

theorem accepted_append_of_some {refusal : EditError}
    (refused : record.firstRefusal? first = some refusal) :
    record.accepted (first ++ second) = record.accepted first := by
  induction first with
  | nil => cases refused
  | cons write first ih =>
      cases here : record.refusal? write.field with
      | some other => simp [accepted, here]
      | none =>
          have later : record.firstRefusal? first = some refusal := by
            rwa [firstRefusal?, List.findSome?_cons, here] at refused
          have same := ih later
          simp only [accepted] at same
          simp [accepted, here, same]

theorem accepted_of_none (free : record.firstRefusal? writes = none) :
    record.accepted writes = writes := by
  refine List.takeWhile_eq_self_iff.mpr fun write member => ?_
  rw [firstRefusal?_eq_none_iff.mp free write member]
  rfl

theorem firstRefusal?_of_accepted (all : record.accepted writes = writes) :
    record.firstRefusal? writes = none := by
  refine firstRefusal?_eq_none_iff.mpr fun write member => ?_
  have free := List.takeWhile_eq_self_iff.mp all write member
  exact Option.isNone_iff_eq_none.mp free

theorem exists_refused {refusal : EditError}
    (refused : record.firstRefusal? writes = some refusal) :
    ∃ write later, writes = record.accepted writes ++ write :: later ∧
      record.refusal? write.field = some refusal := by
  induction writes with
  | nil => cases refused
  | cons write writes ih =>
      rw [firstRefusal?, List.findSome?_cons] at refused
      cases here : record.refusal? write.field with
      | some other =>
          rw [here] at refused
          exact ⟨write, writes, by simp [accepted, here], here.trans refused⟩
      | none =>
          rw [here] at refused
          obtain ⟨other, later, split, last⟩ := ih refused
          refine ⟨other, later, ?_, last⟩
          rw [accepted, List.takeWhile_cons_of_pos (by rw [here]; rfl), List.cons_append]
          exact congrArg (List.cons write) split

theorem refusal?_of_mem_accepted {write : AdditionalAction}
    (member : write ∈ record.accepted writes) : record.refusal? write.field = none := by
  have free : (record.refusal? write.field).isNone = true := by
    rw [accepted] at member
    simpa using List.mem_takeWhile_imp member
  exact Option.isNone_iff_eq_none.mp free

theorem accepted_subset : record.accepted writes ⊆ writes :=
  (List.takeWhile_prefix _).subset

theorem accepted_of_refused
    (refused : ∀ write ∈ writes.head?, record.refusal? write.field ≠ none) :
    record.accepted writes = [] := by
  cases writes with
  | nil => rfl
  | cons write writes =>
      refine List.takeWhile_cons_of_neg ?_
      rw [Option.isNone_iff_eq_none]
      exact refused write rfl

theorem refusal?_eq_readOnly (locked : record.locked = true) (name : String) :
    record.refusal? name = some (.readOnly record.entityId) := by
  rw [refusal?, if_pos locked]

theorem refusal?_of_locked (locked : record.locked = true) (name : String) :
    record.refusal? name ≠ none := by
  rw [refusal?_eq_readOnly locked]
  exact Option.some_ne_none _

theorem accepted_of_locked (locked : record.locked = true) : record.accepted writes = [] :=
  accepted_of_refused fun write _ => refusal?_of_locked locked write.field

theorem refusal?_eq_none {name : String} (unlocked : record.locked = false)
    (named : isBlankText name = false) : record.refusal? name = none := by
  simp [refusal?, unlocked, named]

theorem firstRefusal?_of_unlocked (unlocked : record.locked = false)
    (named : ∀ write ∈ writes, isBlankText write.field = false) :
    record.firstRefusal? writes = none :=
  firstRefusal?_eq_none_iff.mpr fun write member => refusal?_eq_none unlocked (named write member)

theorem refusal?_of_isBlankText (unlocked : record.locked = false) {name : String}
    (blank : isBlankText name = true) : record.refusal? name = some (.invalidFieldName name) := by
  rw [refusal?, unlocked, if_neg Bool.false_ne_true, if_pos blank]

theorem firstRefusal?_eq_find? (unlocked : record.locked = false)
    (writes : List AdditionalAction) :
    record.firstRefusal? writes =
      (writes.find? fun write => isBlankText write.field).map fun write =>
        .invalidFieldName write.field := by
  induction writes with
  | nil => rfl
  | cons write writes ih =>
      rw [firstRefusal?, List.findSome?_cons]
      cases blank : isBlankText write.field with
      | true =>
          rw [refusal?_of_isBlankText unlocked blank, List.find?_cons, blank]
          rfl
      | false =>
          rw [refusal?_eq_none unlocked blank, List.find?_cons, blank]
          exact ih

theorem accepted_eq_takeWhile (unlocked : record.locked = false) (writes : List AdditionalAction) :
    record.accepted writes = writes.takeWhile fun write => !isBlankText write.field := by
  rw [accepted]
  congr 1
  funext write
  cases blank : isBlankText write.field with
  | true =>
      rw [refusal?_of_isBlankText unlocked blank]
      rfl
  | false =>
      rw [refusal?_eq_none unlocked blank]
      rfl

end

end Record

namespace Edited

variable {α β γ : Type} {record : Record}

def refusal? (edited : Edited α) : Option EditError :=
  match edited.outcome with
  | .ok _ => none
  | .error refusal => some refusal

/-- The edit of a record does these writes, up to the first that is refused. -/
structure Follows (edited : Edited α) (record : Record) (writes : List AdditionalAction) :
    Prop where
  record_eq : edited.record = record.written (record.accepted writes)
  refusal?_eq : edited.refusal? = record.firstRefusal? writes

namespace Follows

theorem nothing (result : α) : Follows { record, outcome := .ok result } record [] :=
  ⟨rfl, rfl⟩

theorem write (write : AdditionalAction) (result : α) :
    (record.write write.field (write.change record.customFields) result).Follows record
      [write] := by
  cases refusal : record.refusal? write.field with
  | some refused =>
      rw [Record.write_of_some refusal]
      refine ⟨?_, ?_⟩
      · simp [Record.written, Record.accepted, refusal]
      · simp [Edited.refusal?, Record.firstRefusal?, refusal]
  | none =>
      rw [Record.write_of_none refusal]
      refine ⟨?_, ?_⟩
      · simp [Record.written, Record.accepted, refusal]
      · simp [Edited.refusal?, Record.firstRefusal?, refusal]

theorem map {edited : Edited α} {writes : List AdditionalAction}
    (follows : edited.Follows record writes) (f : α → β) :
    (edited.map f).Follows record writes where
  record_eq := follows.record_eq
  refusal?_eq := by
    rw [← follows.refusal?_eq, Edited.refusal?, Edited.refusal?, Edited.map]
    cases edited.outcome <;> rfl

theorem andThen {edited : Edited α} {next : Record → α → Edited β}
    {first second : List AdditionalAction} (follows : edited.Follows record first)
    (later : ∀ record result, (next record result).Follows record second) :
    (edited.andThen next).Follows record (first ++ second) := by
  have ended := follows.refusal?_eq
  rw [Edited.andThen]
  cases outcome : edited.outcome with
  | error refusal =>
      rw [Edited.refusal?, outcome] at ended
      refine ⟨?_, ?_⟩
      · rw [Record.accepted_append_of_some ended.symm]
        exact follows.record_eq
      · rw [Record.firstRefusal?_append, ← ended]
        rfl
  | ok result =>
      rw [Edited.refusal?, outcome] at ended
      have rest := later edited.record result
      rw [follows.record_eq, Record.accepted_of_none ended.symm] at rest
      refine ⟨?_, ?_⟩
      · rw [follows.record_eq, Record.accepted_of_none ended.symm, rest.record_eq,
          Record.accepted_written, Record.written_written,
          Record.accepted_append_of_none ended.symm]
      · rw [follows.record_eq, Record.accepted_of_none ended.symm, rest.refusal?_eq,
          Record.firstRefusal?_written, Record.firstRefusal?_append, ← ended]
        rfl

end Follows

/-- The edit of a record stays within its custom fields, and out of a locked record. -/
structure Confined (edited : Edited α) (record : Record) : Prop where
  fieldsOnly : edited.record = { record with customFields := edited.record.customFields }
  locked : record.locked = true → edited.record = record

theorem Follows.confined {edited : Edited α} {writes : List AdditionalAction}
    (follows : edited.Follows record writes) : edited.Confined record where
  fieldsOnly := by
    rw [follows.record_eq]
    rfl
  locked isLocked := by
    rw [follows.record_eq, Record.accepted_of_locked isLocked]
    rfl

end Edited

namespace Record

variable (record : Record)

theorem setField_follows (field value : String) :
    (record.setField field value).Follows record [.setting field value] :=
  .write (.setting field value) ()

theorem removeField_follows (field : String) :
    (record.removeField field).Follows record [.removing field] :=
  .write (.removing field) (record.customFields.has field)

theorem assign_follows (field value : String) :
    (record.assign field value).Follows record [.setting field value] :=
  (record.setField_follows field value).map _

theorem act_follows (action : AdditionalAction) : (record.act action).Follows record [action] := by
  cases action with
  | mk field kind value =>
      cases kind with
      | set => exact record.assign_follows field value
      | remove => exact .write { field, action := .remove, value } (record.customFields.has field)

theorem actAll_follows (actions : List AdditionalAction) :
    (record.actAll actions).Follows record actions := by
  induction actions generalizing record with
  | nil => exact .nothing false
  | cons action actions ih =>
      exact (record.act_follows action).andThen fun record _ => (ih record).map _

theorem dropField_follows (field : String) :
    (record.dropField field).Follows record [.removing field] :=
  (record.removeField_follows field).map _

theorem setWith_follows (field value : String) (actions : List AdditionalAction) :
    (record.setWith field value actions).Follows record (.setting field value :: actions) :=
  (record.assign_follows field value).andThen fun record _ => (record.actAll_follows actions).map _

theorem removeFields_follows (names : List String) :
    (record.removeFields names).Follows record (names.map .removing) := by
  induction names generalizing record with
  | nil => exact .nothing 0
  | cons name names ih =>
      exact (record.removeField_follows name).andThen fun record _ => (ih record).map _

/-- The write by which a token is added to a field that does not hold it. -/
def additions (field token : String) : List AdditionalAction :=
  match Token.add? (record.field? field) token with
  | some value => [.setting field value]
  | none => []

theorem addTokenWith_follows (field token : String) (actions : List AdditionalAction) :
    (record.addTokenWith field token actions).Follows record
      (record.additions field token ++ actions) := by
  rw [addTokenWith, additions]
  cases Token.add? (record.field? field) token with
  | some value =>
      exact ((record.setField_follows field value).map _).andThen fun record _ =>
        (record.actAll_follows actions).map _
  | none => exact (record.actAll_follows actions).map _

/-- The write by which a token is taken out of a field that holds it. -/
def withdrawals (field token : String) : List AdditionalAction :=
  match Token.remove (record.field? field) token with
  | .unchanged => []
  | .replace value => [.setting field value]
  | .removeField => [.removing field]

theorem dropToken_follows (field token : String) :
    (record.dropToken field token).Follows record (record.withdrawals field token) := by
  rw [dropToken, withdrawals]
  cases Token.remove (record.field? field) token with
  | unchanged => exact .nothing _
  | replace value => exact (record.setField_follows field value).map _
  | removeField => exact record.dropField_follows field

def clearances : List AdditionalAction :=
  record.customFields.map fun held => .removing held.name

theorem dropAll_follows : record.dropAll.Follows record record.clearances := by
  have follows := record.removeFields_follows (record.customFields.map CustomField.name)
  rw [List.map_map] at follows
  exact follows.map _

end Record

end FieldMenu
