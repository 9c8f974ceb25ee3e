import FieldMenu.Proofs.Record.Plan

namespace FieldMenu

open Text

/-- No name is blank, and no two names are the same but for letter case. -/
structure FieldStore.WellNamed (store : FieldStore) : Prop where
  named : ∀ field ∈ store, isBlankText field.name = false
  apart : store.Pairwise fun field other => sameIgnoringCase field.name other.name = false

namespace FieldStore

variable {store : FieldStore} {name : String}

theorem wellNamed_iff :
    store.WellNamed ↔ (∀ held ∈ store.map CustomField.name, isBlankText held = false) ∧
      (store.map CustomField.name).Pairwise fun held other =>
        sameIgnoringCase held other = false := by
  rw [List.forall_mem_map, List.pairwise_map]
  exact ⟨fun wellNamed => ⟨wellNamed.named, wellNamed.apart⟩, fun ⟨named, apart⟩ => ⟨named, apart⟩⟩

theorem map_name_set_of_has (held : store.has name = true) (value : String) :
    (store.set name value).map CustomField.name = store.map CustomField.name := by
  induction store with
  | nil => cases held
  | cons field store ih =>
      cases named : field.isNamed name with
      | true => rw [FieldStore.set, if_pos named, List.map_cons, List.map_cons]
      | false =>
          rw [has, List.any_cons, named, Bool.false_or] at held
          rw [FieldStore.set, named, if_neg Bool.false_ne_true, List.map_cons, List.map_cons,
            ih held]

theorem set_of_not_has (absent : store.has name = false) (value : String) :
    store.set name value = store ++ ([{ name, value }] : FieldStore) := by
  induction store with
  | nil => rfl
  | cons field store ih =>
      rw [has, List.any_cons, Bool.or_eq_false_iff] at absent
      rw [FieldStore.set, absent.1, if_neg Bool.false_ne_true, ih absent.2, List.cons_append]

namespace WellNamed

theorem set (wellNamed : store.WellNamed) (filled : isBlankText name = false) (value : String) :
    (store.set name value).WellNamed := by
  cases held : store.has name with
  | true =>
      rw [wellNamed_iff] at wellNamed ⊢
      rwa [map_name_set_of_has held]
  | false =>
      rw [set_of_not_has held]
      refine ⟨?_, ?_⟩
      · rw [List.forall_mem_append, List.forall_mem_singleton]
        exact ⟨wellNamed.named, filled⟩
      · -- A field is added only where no field of its name is found.
        rw [List.pairwise_append]
        refine ⟨wellNamed.apart, List.pairwise_singleton _ _, fun field member => ?_⟩
        rw [List.forall_mem_singleton]
        exact Bool.eq_false_iff.mpr (List.any_eq_false.mp held field member)

theorem remove (wellNamed : store.WellNamed) (name : String) : (store.remove name).WellNamed where
  named field member := wellNamed.named field ((List.mem_filter.mp member).1)
  apart := wellNamed.apart.sublist List.filter_sublist

theorem change {write : AdditionalAction} (wellNamed : store.WellNamed)
    (filled : isBlankText write.field = false) : (write.change store).WellNamed := by
  rw [AdditionalAction.change]
  cases write.action with
  | set => exact wellNamed.set filled write.value
  | remove => exact wellNamed.remove write.field

theorem foldl_change {writes : List AdditionalAction} (wellNamed : store.WellNamed)
    (filled : ∀ write ∈ writes, isBlankText write.field = false) :
    (writes.foldl AdditionalAction.change store).WellNamed := by
  induction writes generalizing store with
  | nil => exact wellNamed
  | cons write writes ih =>
      obtain ⟨here, later⟩ := List.forall_mem_cons.mp filled
      exact ih (wellNamed.change here) later

end WellNamed

end FieldStore

theorem Record.set_eq_appendField {record : Record} {name : String}
    (absent : record.customFields.has name = false) (value : String) :
    { record with customFields := record.customFields.set name value } =
      record.appendField name value := by
  rw [FieldStore.set_of_not_has absent, appendField]

theorem Record.isBlankText_of_accepted {record : Record} {name : String}
    (free : record.refusal? name = none) : isBlankText name = false := by
  rw [refusal?] at free
  split at free
  · cases free
  · split at free
    · cases free
    · rename_i filled
      exact Bool.eq_false_iff.mpr filled

/-- What editing leaves to a record: all but its custom fields; these too, if it is locked; and
names in good order. -/
structure Record.Keeps (before after : Record) : Prop where
  fieldsOnly : after = { before with customFields := after.customFields }
  locked : before.locked = true → after = before
  wellNamed : before.customFields.WellNamed → after.customFields.WellNamed

namespace Record.Keeps

theorem refl (record : Record) : record.Keeps record :=
  ⟨rfl, fun _ => rfl, fun wellNamed => wellNamed⟩

theorem trans {first second third : Record} (earlier : first.Keeps second)
    (later : second.Keeps third) : first.Keeps third where
  fieldsOnly := by
    rw [later.fieldsOnly, earlier.fieldsOnly]
  locked isLocked := by
    have same := earlier.locked isLocked
    subst same
    exact later.locked isLocked
  wellNamed := later.wellNamed ∘ earlier.wellNamed

end Record.Keeps

theorem Edited.Follows.keeps {α : Type} {edited : Edited α} {record : Record}
    {writes : List AdditionalAction} (follows : edited.Follows record writes) :
    record.Keeps edited.record where
  fieldsOnly := follows.confined.fieldsOnly
  locked := follows.confined.locked
  wellNamed wellNamed := by
    rw [follows.record_eq]
    exact wellNamed.foldl_change fun write member =>
      Record.isBlankText_of_accepted (Record.refusal?_of_mem_accepted member)

end FieldMenu
