import FieldMenu.Proofs.Record.Plan
import FieldMenu.Proofs.Value.Token

namespace FieldMenu

open Text

namespace FieldStore

theorem set_eq_self {store : FieldStore} {name value : String}
    (held : store.get? name = some value) : store.set name value = store := by
  induction store with
  | nil => cases held
  | cons field store ih =>
      rw [get?_cons] at held
      cases named : field.isNamed name with
      | true =>
          rw [named, if_pos rfl, Option.some.injEq] at held
          rw [FieldStore.set, if_pos named, ← held]
      | false =>
          rw [named, if_neg Bool.false_ne_true] at held
          rw [FieldStore.set, named, if_neg Bool.false_ne_true, ih held]

theorem length_remove_lt {store : FieldStore} {name : String} (held : store.has name = true) :
    (store.remove name).length < store.length := by
  obtain ⟨field, member, named⟩ := List.any_eq_true.mp held
  exact List.length_filter_lt_length_iff_exists.mpr ⟨field, member, by simp [named]⟩

end FieldStore

namespace Token

theorem ne_of_add? {value : Option String} {token added : String} (valid : IsToken token)
    (adds : add? value token = some added) : value ≠ some added := by
  intro same
  have missing : contains value token = false := by
    cases contained : contains value token with
    | false => rfl
    | true =>
        rw [add?_of_contained contained] at adds
        cases adds
  rw [add?_of_missing missing] at adds
  have longer : listOf (some (join (listOf value ++ [token]))) = listOf value ++ [token] :=
    listOf_added valid
  rw [adds, ← same] at longer
  exact List.cons_ne_nil _ _ (List.self_eq_append_right.mp longer)

theorem ne_of_remove {value : Option String} {token rest : String}
    (removes : remove value token = .replace rest) : value ≠ some rest := by
  intro same
  cases contained : contains value token with
  | false =>
      rw [remove_eq_unchanged_iff.mpr contained] at removes
      cases removes
  | true =>
      by_cases last : kept value token = []
      · rw [remove_of_last contained last] at removes
        cases removes
      · rw [remove_of_more contained last, Removal.replace.injEq] at removes
        have fewer := listOf_kept value token
        rw [removes, ← same] at fewer
        -- The token would have to be among those that are not this token.
        obtain ⟨known, member, isToken⟩ := List.any_eq_true.mp contained
        rw [fewer, kept, List.mem_filter, isToken] at member
        exact Bool.false_ne_true member.2

end Token

namespace AdditionalAction

@[simp] theorem isOn_self (action : AdditionalAction) : action.isOn action.field = true :=
  sameIgnoringCase_self action.field

theorem change_eq_self_iff {store : FieldStore} {action : AdditionalAction} :
    action.change store = store ↔ store.get? action.field = action.result := by
  constructor
  · intro same
    have after := get?_change store action action.field
    rwa [same, isOn_self, if_pos rfl] at after
  · intro held
    rw [change]
    rw [result] at held
    cases kind : action.action with
    | set =>
        rw [kind] at held
        exact FieldStore.set_eq_self held
    | remove =>
        rw [kind] at held
        refine FieldStore.remove_eq_self_of_not_has store action.field ?_
        rw [FieldStore.has_eq_isSome_get?, held]
        rfl

theorem change_bne_self (store : FieldStore) (action : AdditionalAction) :
    (action.change store != store) = (store.get? action.field != action.result) := by
  rw [Bool.eq_iff_iff, bne_iff_ne, bne_iff_ne, ne_eq, ne_eq, change_eq_self_iff]

def alters : FieldStore → List AdditionalAction → Bool
  | _, [] => false
  | store, write :: writes => write.change store != store || alters (write.change store) writes

theorem alters_append (store : FieldStore) (first second : List AdditionalAction) :
    alters store (first ++ second) =
      (alters store first || alters (first.foldl change store) second) := by
  induction first generalizing store with
  | nil => rfl
  | cons write first ih => rw [List.cons_append, alters, alters, ih, Bool.or_assoc, List.foldl_cons]

theorem foldl_change_of_not_alters {store : FieldStore} {writes : List AdditionalAction}
    (still : alters store writes = false) : writes.foldl change store = store := by
  induction writes generalizing store with
  | nil => rfl
  | cons write writes ih =>
      rw [alters, Bool.or_eq_false_iff, bne_eq_false_iff_eq] at still
      obtain ⟨here, later⟩ := still
      rw [here] at later
      rw [List.foldl_cons, here, ih later]

def Apart (writes : List AdditionalAction) : Prop :=
  writes.Pairwise fun write other => lowered write.field ≠ lowered other.field

/-- No write can take back what another one did: they are on different fields, or all of them
remove. -/
def NeverUndone (writes : List AdditionalAction) : Prop :=
  Apart writes ∨ ∀ write ∈ writes, write.action = .remove

theorem foldl_change_ne_of_apart {store : FieldStore} {writes : List AdditionalAction}
    (apart : Apart writes) (altered : alters store writes = true) :
    writes.foldl change store ≠ store := by
  induction writes generalizing store with
  | nil => cases altered
  | cons write writes ih =>
      obtain ⟨others, rest⟩ := List.pairwise_cons.mp apart
      rw [List.foldl_cons]
      by_cases still : write.change store = store
      · rw [alters, still, bne_self_eq_false, Bool.false_or] at altered
        rw [still]
        exact ih rest altered
      · -- Later writes are on other fields, so the field still shows what the first one did.
        intro same
        have elsewhere : ∀ other ∈ writes, other.isOn write.field = false := fun other member =>
          sameIgnoringCase_eq_false_iff.mpr (others other member).symm
        have after := get?_foldl_change writes (write.change store) write.field
        rw [decided_of_other elsewhere, same, get?_change, isOn_self, if_pos rfl] at after
        exact still (change_eq_self_iff.mpr after)

theorem length_change_le {store : FieldStore} {write : AdditionalAction}
    (removes : write.action = .remove) : (write.change store).length ≤ store.length := by
  rw [change, removes]
  exact List.length_filter_le _ _

theorem length_foldl_change_le {store : FieldStore} {writes : List AdditionalAction}
    (removes : ∀ write ∈ writes, write.action = .remove) :
    (writes.foldl change store).length ≤ store.length := by
  induction writes generalizing store with
  | nil => exact Nat.le_refl _
  | cons write writes ih =>
      have first : (write.change store).length ≤ store.length :=
        length_change_le (removes write List.mem_cons_self)
      exact (ih fun other member => removes other (List.mem_cons_of_mem _ member)).trans first

theorem foldl_change_ne_of_removals {store : FieldStore} {writes : List AdditionalAction}
    (removes : ∀ write ∈ writes, write.action = .remove) (altered : alters store writes = true) :
    writes.foldl change store ≠ store := by
  induction writes generalizing store with
  | nil => cases altered
  | cons write writes ih =>
      have others : ∀ other ∈ writes, other.action = .remove := fun other member =>
        removes other (List.mem_cons_of_mem _ member)
      rw [List.foldl_cons]
      by_cases still : write.change store = store
      · rw [alters, still, bne_self_eq_false, Bool.false_or] at altered
        rw [still]
        exact ih others altered
      · intro same
        have kind := removes write List.mem_cons_self
        have shorter : (write.change store).length < store.length := by
          rw [change, kind] at still ⊢
          refine FieldStore.length_remove_lt ?_
          by_contra absent
          exact still (FieldStore.remove_eq_self_of_not_has store write.field
            (Bool.eq_false_iff.mpr absent))
        have rest : (writes.foldl change (write.change store)).length ≤
            (write.change store).length :=
          length_foldl_change_le others
        rw [same] at rest
        exact absurd shorter (Nat.not_lt.mpr rest)

theorem foldl_change_ne_iff {store : FieldStore} {writes : List AdditionalAction}
    (kept : NeverUndone writes) :
    writes.foldl change store ≠ store ↔ alters store writes = true := by
  constructor
  · intro different
    cases altered : alters store writes with
    | true => rfl
    | false => exact absurd (foldl_change_of_not_alters altered) different
  · intro altered
    rcases kept with apart | removes
    · exact foldl_change_ne_of_apart apart altered
    · exact foldl_change_ne_of_removals removes altered

end AdditionalAction

namespace Edited

variable {α β γ : Type} {record : Record}

/-- The result of an edit tells whether its writes find something to change. -/
def Tells (edited : Edited α) (flag : α → Bool) (record : Record)
    (writes : List AdditionalAction) : Prop :=
  ∀ result, edited.outcome = .ok result →
    flag result = AdditionalAction.alters record.customFields writes

namespace Tells

theorem nothing {result : α} {flag : α → Bool} (still : flag result = false) :
    Tells { record, outcome := .ok result } flag record [] := by
  intro other same
  cases same
  exact still

theorem write (write : AdditionalAction) {result : α} {flag : α → Bool}
    (told : flag result = (write.change record.customFields != record.customFields)) :
    (record.write write.field (write.change record.customFields) result).Tells flag record
      [write] := by
  intro other done
  rw [Record.write] at done
  cases refusal : record.refusal? write.field with
  | some refused =>
      rw [refusal] at done
      cases done
  | none =>
      rw [refusal] at done
      cases done
      rw [told, AdditionalAction.alters, AdditionalAction.alters, Bool.or_false]

theorem map {edited : Edited α} {writes : List AdditionalAction} {flag : β → Bool} (f : α → β)
    (tells : edited.Tells (fun result => flag (f result)) record writes) :
    (edited.map f).Tells flag record writes := by
  intro result done
  rw [Edited.map] at done
  cases outcome : edited.outcome with
  | error refusal =>
      rw [outcome] at done
      cases done
  | ok earlier =>
      rw [outcome] at done
      cases done
      exact tells earlier outcome

theorem andThen {edited : Edited α} {next : Record → Edited β} {join : α → β → γ}
    {before : α → Bool} {after : β → Bool} {flag : γ → Bool}
    {first second : List AdditionalAction} (follows : edited.Follows record first)
    (tells : edited.Tells before record first)
    (later : ∀ record, (next record).Tells after record second)
    (joined : ∀ earlier result, flag (join earlier result) = (before earlier || after result)) :
    (edited.andThen fun record earlier => (next record).map (join earlier)).Tells flag record
      (first ++ second) := by
  intro result done
  rw [Edited.andThen] at done
  cases outcome : edited.outcome with
  | error refusal =>
      rw [outcome] at done
      cases done
  | ok earlier =>
      rw [outcome] at done
      have free := follows.refusal?_eq
      rw [Edited.refusal?, outcome] at free
      have written := follows.record_eq
      rw [Record.accepted_of_none free.symm] at written
      cases ended : (next edited.record).outcome with
      | error refusal =>
          simp only [Edited.map, ended] at done
          cases done
      | ok last =>
          simp only [Edited.map, ended] at done
          cases done
          rw [joined, tells earlier outcome, later edited.record last ended, written,
            AdditionalAction.alters_append]
          rfl

end Tells

end Edited

namespace Record

variable (record : Record)

theorem assign_tells (field value : String) :
    (record.assign field value).Tells (fun changed => changed) record [.setting field value] := by
  refine Edited.Tells.map _ (Edited.Tells.write (.setting field value) ?_)
  exact (AdditionalAction.change_bne_self record.customFields (.setting field value)).symm

theorem removeField_tells (action : AdditionalAction) (removes : action.action = .remove) :
    (record.removeField action.field).Tells (fun changed => changed) record [action] := by
  have change : action.change record.customFields = record.customFields.remove action.field := by
    rw [AdditionalAction.change, removes]
  have none : action.result = none := by
    rw [AdditionalAction.result, removes]
  rw [removeField, ← change]
  refine Edited.Tells.write action ?_
  rw [AdditionalAction.change_bne_self, none, FieldStore.has_eq_isSome_get?]
  cases record.customFields.get? action.field <;> rfl

theorem act_tells (action : AdditionalAction) :
    (record.act action).Tells (fun changed => changed) record [action] := by
  rw [act]
  cases kind : action.action with
  | set =>
      have same : action = .setting action.field action.value := by
        cases action with
        | mk field _ value =>
            cases kind
            rfl
      have tells := record.assign_tells action.field action.value
      rwa [← same] at tells
  | remove => exact record.removeField_tells action kind

theorem actAll_tells (actions : List AdditionalAction) :
    (record.actAll actions).Tells (fun changed => changed) record actions := by
  induction actions generalizing record with
  | nil => exact .nothing rfl
  | cons action actions ih =>
      exact .andThen (record.act_follows action) (record.act_tells action) ih fun _ _ => rfl

theorem dropField_tells (field : String) :
    (record.dropField field).Tells Change.changed record [.removing field] :=
  .map _ (record.removeField_tells (.removing field) rfl)

theorem setWith_tells (field value : String) (actions : List AdditionalAction) :
    (record.setWith field value actions).Tells Change.changed record
      (.setting field value :: actions) :=
  .andThen (record.assign_follows field value) (record.assign_tells field value)
    (fun record => record.actAll_tells actions) fun _ _ => rfl

theorem removeFields_tells (names : List String) :
    (record.removeFields names).Tells (fun count => decide (0 < count)) record
      (names.map .removing) := by
  induction names generalizing record with
  | nil => exact .nothing rfl
  | cons name names ih =>
      refine .andThen (record.removeField_follows name)
        (record.removeField_tells (.removing name) rfl) ih fun removed count => ?_
      cases removed <;> simp

theorem dropAll_tells : record.dropAll.Tells Change.changed record record.clearances := by
  have tells := record.removeFields_tells (record.customFields.map CustomField.name)
  rw [List.map_map] at tells
  exact .map _ tells

theorem addTokenWith_tells (field : String) {token : String} (actions : List AdditionalAction)
    (valid : Token.IsToken token) :
    (record.addTokenWith field token actions).Tells Change.changed record
      (record.additions field token ++ actions) := by
  have others : ∀ record : Record,
      (record.actAll actions).Tells (fun changed => changed) record actions :=
    fun record => record.actAll_tells actions
  rw [addTokenWith, additions]
  cases adds : Token.add? (record.field? field) token with
  | none =>
      have told : Edited.Tells { record, outcome := .ok false } (fun changed => changed)
          record [] :=
        .nothing rfl
      exact .andThen (.nothing false) told others fun _ _ => rfl
  | some value =>
      have told : ((record.setField field value).map fun _ => true).Tells
          (fun changed => changed) record [.setting field value] := by
        refine .map _ (.write (.setting field value) ?_)
        rw [AdditionalAction.change_bne_self]
        exact (bne_iff_ne.mpr (Token.ne_of_add? valid adds)).symm
      exact .andThen ((record.setField_follows field value).map _) told others fun _ _ => rfl

theorem dropToken_tells (field token : String) :
    (record.dropToken field token).Tells Change.changed record
      (record.withdrawals field token) := by
  rw [dropToken, withdrawals]
  cases removes : Token.remove (record.field? field) token with
  | unchanged => exact .nothing rfl
  | removeField => exact record.dropField_tells field
  | replace value =>
      refine .map _ (.write (.setting field value) ?_)
      rw [AdditionalAction.change_bne_self]
      exact (bne_iff_ne.mpr (Token.ne_of_remove removes)).symm

end Record

end FieldMenu
