import FieldMenu.Text.Lowercase

/-!
Of a name that a store holds more than once the first one counts, and all of them go together.
-/

namespace FieldMenu

open Text

structure CustomField where
  name : String
  value : String
deriving DecidableEq, Repr

namespace CustomField

def isNamed (field : CustomField) (name : String) : Bool :=
  sameIgnoringCase field.name name

end CustomField

abbrev FieldStore := List CustomField

namespace FieldStore

def get? (store : FieldStore) (name : String) : Option String :=
  (store.find? fun field => field.isNamed name).map CustomField.value

/-- Gives the first field of that name the value, or adds a field where there is none. -/
def set (name value : String) : FieldStore → FieldStore
  | [] => [{ name, value }]
  | field :: rest =>
      if field.isNamed name then { field with value } :: rest
      else field :: FieldStore.set name value rest

def remove (name : String) (store : FieldStore) : FieldStore :=
  store.filter fun field => !field.isNamed name

def has (store : FieldStore) (name : String) : Bool :=
  store.any fun field => field.isNamed name

@[simp] theorem get?_nil (name : String) : FieldStore.get? [] name = none :=
  rfl

theorem get?_cons (field : CustomField) (store : FieldStore) (name : String) :
    FieldStore.get? (field :: store) name =
      if field.isNamed name then some field.value else store.get? name := by
  cases h : field.isNamed name <;> simp [get?, h]

theorem isNamed_congr (field : CustomField) {name other : String}
    (same : lowered name = lowered other) : field.isNamed name = field.isNamed other := by
  simp [CustomField.isNamed, sameIgnoringCase, same]

theorem get?_congr (store : FieldStore) {name other : String}
    (same : lowered name = lowered other) : store.get? name = store.get? other := by
  simp only [get?, isNamed_congr _ same]

theorem not_isNamed_of_ne (field : CustomField) {name other : String}
    (different : lowered name ≠ lowered other) (named : field.isNamed name = true) :
    field.isNamed other = false := by
  have key : lowered field.name = lowered name := sameIgnoringCase_iff.mp named
  exact sameIgnoringCase_eq_false_iff.mpr fun h => different (key.symm.trans h)

@[simp] theorem get?_set_self (store : FieldStore) (name value : String) :
    (store.set name value).get? name = some value := by
  induction store with
  | nil => simp [FieldStore.set, get?_cons, CustomField.isNamed]
  | cons field rest ih =>
      cases named : field.isNamed name with
      | true =>
          have kept : CustomField.isNamed { field with value } name = true := named
          simp [FieldStore.set, named, get?_cons, kept]
      | false => simp [FieldStore.set, named, get?_cons, ih]

theorem get?_set_of_ne (store : FieldStore) (value : String) {name other : String}
    (different : lowered name ≠ lowered other) :
    (store.set name value).get? other = store.get? other := by
  induction store with
  | nil => simp [FieldStore.set, get?_cons, CustomField.isNamed, sameIgnoringCase, different]
  | cons field rest ih =>
      cases named : field.isNamed name with
      | true =>
          have other_false := not_isNamed_of_ne field different named
          have kept : CustomField.isNamed { field with value } other = false := other_false
          simp [FieldStore.set, named, get?_cons, other_false, kept]
      | false => simp [FieldStore.set, named, get?_cons, ih]

@[simp] theorem get?_remove_self (store : FieldStore) (name : String) :
    (store.remove name).get? name = none := by
  simp [get?, FieldStore.remove, List.find?_filter]

theorem get?_remove_of_ne (store : FieldStore) {name other : String}
    (different : lowered name ≠ lowered other) :
    (store.remove name).get? other = store.get? other := by
  induction store with
  | nil => rfl
  | cons field rest ih =>
      cases named : field.isNamed name with
      | true =>
          have other_false := not_isNamed_of_ne field different named
          have dropped : FieldStore.remove name (field :: rest) = FieldStore.remove name rest := by
            simp [FieldStore.remove, named]
          rw [dropped, get?_cons, other_false]
          exact ih
      | false =>
          have kept : FieldStore.remove name (field :: rest) =
              field :: FieldStore.remove name rest := by
            simp [FieldStore.remove, named]
          rw [kept, get?_cons, get?_cons, ih]

theorem has_eq_isSome_get? (store : FieldStore) (name : String) :
    store.has name = (store.get? name).isSome := by
  rw [Bool.eq_iff_iff]
  simp [has, get?]

theorem remove_eq_self_of_not_has (store : FieldStore) (name : String)
    (absent : store.has name = false) : store.remove name = store := by
  simpa [FieldStore.remove, has] using absent

end FieldStore

end FieldMenu
