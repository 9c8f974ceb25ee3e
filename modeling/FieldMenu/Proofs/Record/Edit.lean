import FieldMenu.Activation.Change

namespace FieldMenu

open Text

namespace FieldStore

variable {keep : CustomField → Bool} {name : String}

theorem filter_set (others : ∀ field : CustomField, field.isNamed name = true → keep field = false)
    (store : FieldStore) (value : String) :
    (store.set name value).filter keep = store.filter keep := by
  induction store with
  | nil =>
      have new : keep { name, value } = false := others _ (sameIgnoringCase_self name)
      simp [FieldStore.set, new]
  | cons field store ih =>
      cases named : field.isNamed name with
      | true =>
          have dropped : keep field = false := others field named
          have changed : keep { field with value } = false := others _ named
          simp [FieldStore.set, named, dropped, changed]
      | false =>
          rw [FieldStore.set, named, if_neg Bool.false_ne_true, List.filter_cons, List.filter_cons,
            ih]

theorem filter_remove
    (others : ∀ field : CustomField, field.isNamed name = true → keep field = false)
    (store : FieldStore) : (store.remove name).filter keep = store.filter keep := by
  rw [FieldStore.remove, List.filter_filter]
  refine List.filter_congr fun field _ => ?_
  cases named : field.isNamed name with
  | true => simp [others field named]
  | false => simp

end FieldStore

namespace AdditionalAction

def isOn (action : AdditionalAction) (name : String) : Bool :=
  sameIgnoringCase action.field name

def result (action : AdditionalAction) : Option String :=
  match action.action with
  | .set => some action.value
  | .remove => none

def change (store : FieldStore) (action : AdditionalAction) : FieldStore :=
  match action.action with
  | .set => store.set action.field action.value
  | .remove => store.remove action.field

theorem get?_change (store : FieldStore) (action : AdditionalAction) (name : String) :
    (change store action).get? name =
      if action.isOn name then action.result else store.get? name := by
  cases same : action.isOn name with
  | true =>
      have key : lowered name = lowered action.field := (sameIgnoringCase_iff.mp same).symm
      rw [if_pos rfl, FieldStore.get?_congr _ key, change, result]
      cases action.action <;> simp
  | false =>
      have different := sameIgnoringCase_eq_false_iff.mp same
      rw [if_neg Bool.false_ne_true, change]
      cases action.action with
      | set => exact FieldStore.get?_set_of_ne store action.value different
      | remove => exact FieldStore.get?_remove_of_ne store different

def lastOn? (actions : List AdditionalAction) (name : String) : Option AdditionalAction :=
  actions.reverse.find? fun action => action.isOn name

/-- What stands in a field after all the actions, where it held something or nothing before. -/
def decided (actions : List AdditionalAction) (name : String) (held : Option String) :
    Option String :=
  match lastOn? actions name with
  | some action => action.result
  | none => held

theorem decided_cons (action : AdditionalAction) (actions : List AdditionalAction) (name : String)
    (held : Option String) :
    decided (action :: actions) name held =
      decided actions name (if action.isOn name then action.result else held) := by
  rw [decided, decided, lastOn?, lastOn?, List.reverse_cons, List.find?_append]
  cases actions.reverse.find? fun action => action.isOn name with
  | some last => rfl
  | none => cases named : action.isOn name <;> simp [named]

theorem get?_foldl_change (actions : List AdditionalAction) (store : FieldStore) (name : String) :
    (actions.foldl change store).get? name = decided actions name (store.get? name) := by
  induction actions generalizing store with
  | nil => rfl
  | cons action actions ih => rw [List.foldl_cons, ih, get?_change, decided_cons]

theorem decided_of_other {actions : List AdditionalAction} {name : String}
    (other : ∀ action ∈ actions, action.isOn name = false) (held : Option String) :
    decided actions name held = held := by
  have none : lastOn? actions name = none := by
    rw [lastOn?, List.find?_eq_none]
    intro action member
    rw [other action (List.mem_reverse.mp member)]
    exact Bool.false_ne_true
  rw [decided, none]

theorem filter_foldl_change (keep : CustomField → Bool) {actions : List AdditionalAction}
    (others : ∀ action ∈ actions, ∀ field : CustomField,
      field.isNamed action.field = true → keep field = false) (store : FieldStore) :
    (actions.foldl change store).filter keep = store.filter keep := by
  induction actions generalizing store with
  | nil => rfl
  | cons action actions ih =>
      have first : (change store action).filter keep = store.filter keep := by
        rw [change]
        cases action.action with
        | set => exact FieldStore.filter_set (others action List.mem_cons_self) store action.value
        | remove => exact FieldStore.filter_remove (others action List.mem_cons_self) store
      rw [List.foldl_cons, ih fun other member => others other (List.mem_cons_of_mem _ member),
        first]

end AdditionalAction

end FieldMenu
