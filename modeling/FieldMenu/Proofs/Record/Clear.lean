import FieldMenu.Proofs.Record.Plan
import FieldMenu.Proofs.Text.Case
import FieldMenu.Proofs.Value.Spelling

namespace FieldMenu

open Text

namespace FieldStore

def without (store : FieldStore) (names : List String) : FieldStore :=
  store.filter fun field => !names.any fun name => field.isNamed name

section

variable {store : FieldStore} {names seen : List String} {name : String}

@[simp] theorem without_nil (store : FieldStore) : store.without [] = store :=
  List.filter_true store

theorem remove_eq_without (store : FieldStore) (name : String) :
    store.remove name = store.without [name] := by
  simp only [FieldStore.remove, without, List.any_cons, List.any_nil, Bool.or_false]

theorem without_without (store : FieldStore) (first second : List String) :
    (store.without first).without second = store.without (first ++ second) := by
  rw [without, without, without, List.filter_filter]
  refine List.filter_congr fun field _ => ?_
  rw [List.any_append, Bool.not_or, Bool.and_comm]

theorem without_eq_nil_iff :
    store.without names = [] ↔ ∀ field ∈ store, ∃ name ∈ names, field.isNamed name = true := by
  simp [without]

theorem without_own_names (store : FieldStore) :
    store.without (store.map CustomField.name) = [] :=
  without_eq_nil_iff.mpr fun field member =>
    ⟨field.name, List.mem_map_of_mem member, sameIgnoringCase_self field.name⟩

theorem has_without (store : FieldStore) (seen : List String) (name : String) :
    (store.without seen).has name =
      (store.has name && !seen.any fun known => sameIgnoringCase known name) := by
  rw [has, has, without, List.any_filter, Bool.eq_iff_iff, Bool.and_eq_true, List.any_eq_true,
    List.any_eq_true]
  have known_iff {field : CustomField} (named : field.isNamed name = true) :
      (seen.any fun known => field.isNamed known) =
        seen.any fun known => sameIgnoringCase known name := by
    refine congrArg seen.any (funext fun known => ?_)
    rw [CustomField.isNamed, sameIgnoringCase_congr named known, sameIgnoringCase_comm]
  constructor
  · rintro ⟨field, member, left⟩
    obtain ⟨unknown, named⟩ := Bool.and_eq_true_iff.mp left
    exact ⟨⟨field, member, named⟩, by rwa [← known_iff named]⟩
  · rintro ⟨⟨field, member, named⟩, unknown⟩
    exact ⟨field, member, Bool.and_eq_true_iff.mpr ⟨by rwa [known_iff named], named⟩⟩

theorem without_addSpelling (store : FieldStore) (seen : List String) (name : String) :
    store.without (addSpelling seen name) = (store.without seen).remove name := by
  cases known : seen.any fun known => sameIgnoringCase known name with
  | false => rw [addSpelling_of_new known, ← without_without, remove_eq_without]
  | true =>
      have absent : (store.without seen).has name = false := by
        rw [has_without, known, Bool.not_true, Bool.and_false]
      rw [addSpelling_of_known known, remove_eq_self_of_not_has _ _ absent]

theorem foldl_removing (store : FieldStore) (names : List String) :
    (names.map AdditionalAction.removing).foldl AdditionalAction.change store =
      store.without names := by
  induction names generalizing store with
  | nil => exact (without_nil store).symm
  | cons name names ih =>
      rw [List.map_cons, List.foldl_cons, ih]
      show (store.remove name).without names = _
      rw [remove_eq_without, without_without, List.singleton_append]

theorem mem_without_of_isBlankText {field : CustomField} (member : field ∈ store)
    (blank : isBlankText field.name = true)
    (named : ∀ name ∈ names, isBlankText name = false) : field ∈ store.without names := by
  refine List.mem_filter.mpr ⟨member, ?_⟩
  rw [Bool.not_eq_true', List.any_eq_false]
  intro name inNames same
  have sameBlank := isBlankText_congr (sameIgnoringCase_iff.mp same)
  rw [blank, named name inNames] at sameBlank
  cases sameBlank

end

end FieldStore

namespace Record

def without (record : Record) (names : List String) : Record :=
  { record with customFields := record.customFields.without names }

def fieldNames (record : Record) : List String :=
  record.customFields.map CustomField.name

section

variable {record : Record}

theorem written_removing (record : Record) (names : List String) :
    record.written (names.map .removing) = record.without names := by
  rw [written, FieldStore.foldl_removing]
  rfl

theorem clearances_eq (record : Record) :
    record.clearances = record.fieldNames.map .removing := by
  rw [clearances, fieldNames, List.map_map]
  rfl

theorem firstRefusal?_clearances (unlocked : record.locked = false) :
    record.firstRefusal? record.clearances =
      (record.fieldNames.find? isBlankText).map .invalidFieldName := by
  rw [firstRefusal?_eq_find? unlocked, clearances_eq, List.find?_map, Option.map_map]
  rfl

theorem dropAll_record (unlocked : record.locked = false) :
    record.dropAll.record =
      record.without (record.fieldNames.takeWhile fun name => !isBlankText name) := by
  rw [record.dropAll_follows.record_eq, accepted_eq_takeWhile unlocked, clearances_eq,
    List.takeWhile_map]
  exact written_removing record _

theorem removeFields_outcome (store : FieldStore) (names seen : List String)
    (unlocked : record.locked = false) (left : record.customFields = store.without seen)
    (named : ∀ name ∈ names, isBlankText name = false)
    (held : ∀ name ∈ names, store.has name = true) :
    ∃ count, (record.removeFields names).outcome = .ok count ∧
      seen.length + count = (names.foldl addSpelling seen).length := by
  induction names generalizing record seen with
  | nil => exact ⟨0, rfl, Nat.add_zero _⟩
  | cons name names ih =>
      obtain ⟨nameNamed, namesNamed⟩ := List.forall_mem_cons.mp named
      obtain ⟨nameHeld, namesHeld⟩ := List.forall_mem_cons.mp held
      have next : (record.customFields.remove name) = store.without (addSpelling seen name) := by
        rw [left, FieldStore.without_addSpelling]
      obtain ⟨count, later, total⟩ :=
        @ih { record with customFields := record.customFields.remove name } (addSpelling seen name)
          unlocked next namesNamed namesHeld
      have removed : record.customFields.has name =
          !seen.any fun known => sameIgnoringCase known name := by
        rw [left, FieldStore.has_without, nameHeld, Bool.true_and]
      rw [removeFields, removeField, write, refusal?_eq_none unlocked nameNamed, List.foldl_cons,
        ← total]
      simp only [Edited.andThen, Edited.map, later, removed]
      cases known : seen.any fun known => sameIgnoringCase known name with
      | true => exact ⟨count, rfl, by rw [addSpelling_of_known known]⟩
      | false =>
          refine ⟨count + 1, rfl, ?_⟩
          rw [addSpelling_of_new known, List.length_append, List.length_singleton]
          omega

def isClearable (record : Record) : Bool :=
  record.fieldNames.all fun name => !isBlankText name

theorem isClearable_iff :
    record.isClearable = true ↔ ∀ name ∈ record.fieldNames, isBlankText name = false := by
  simp only [isClearable, List.all_eq_true, Bool.not_eq_true']

theorem find?_isBlankText_eq_none_iff :
    record.fieldNames.find? isBlankText = none ↔ record.isClearable = true := by
  rw [List.find?_eq_none, isClearable_iff]
  simp only [Bool.not_eq_true]

/-- A record without blank names is emptied.  Each name counts once, in whatever spellings it is
there. -/
theorem dropAll_of_isClearable (unlocked : record.locked = false)
    (clearable : record.isClearable = true) :
    record.dropAll =
      { record := { record with customFields := [] }
        outcome := .ok
          { changed := !record.customFields.isEmpty
            fieldsRemoved := (firstSpellings record.fieldNames).length } } := by
  have named := isClearable_iff.mp clearable
  have emptied : record.dropAll.record = { record with customFields := [] } := by
    rw [dropAll_record unlocked, List.takeWhile_eq_self_iff.mpr fun name member => by
      rw [named name member, Bool.not_false], without, fieldNames, FieldStore.without_own_names]
  have held : ∀ name ∈ record.fieldNames, record.customFields.has name = true := by
    rw [fieldNames, List.forall_mem_map]
    exact fun field member => List.any_eq_true.mpr ⟨field, member, sameIgnoringCase_self _⟩
  obtain ⟨count, outcome, total⟩ := removeFields_outcome record.customFields record.fieldNames []
    unlocked (FieldStore.without_nil _).symm named held
  rw [List.length_nil, Nat.zero_add, ← firstSpellings_eq_foldl] at total
  have filled : decide (0 < count) = !record.customFields.isEmpty := by
    rw [total, Bool.eq_iff_iff, decide_eq_true_iff, List.length_pos_iff, ne_eq,
      firstSpellings_eq_nil_iff, fieldNames, List.map_eq_nil_iff, Bool.not_eq_true',
      List.isEmpty_eq_false_iff]
  have told : record.dropAll.outcome =
      .ok { changed := !record.customFields.isEmpty
            fieldsRemoved := (firstSpellings record.fieldNames).length } := by
    rw [dropAll, clearFields, Edited.map, ← fieldNames, outcome, ← filled, ← total]
    rfl
  rw [← emptied, ← told]

theorem dropAll_of_blank (unlocked : record.locked = false) {front rest : List String}
    {name : String} (split : record.fieldNames = front ++ name :: rest)
    (named : ∀ other ∈ front, isBlankText other = false) (blank : isBlankText name = true) :
    record.dropAll.record = record.without front ∧
      record.dropAll.record.customFields ≠ [] := by
  have taken : record.dropAll.record = record.without front := by
    rw [dropAll_record unlocked, split, List.takeWhile_append_of_pos fun other member => by
      rw [named other member, Bool.not_false], List.takeWhile_cons_of_neg (by simp [blank]),
      List.append_nil]
  refine ⟨taken, ?_⟩
  have held : name ∈ record.fieldNames := by
    rw [split]
    exact List.mem_append_right front List.mem_cons_self
  obtain ⟨field, member, rfl⟩ := List.mem_map.mp held
  rw [taken]
  exact List.ne_nil_of_mem (FieldStore.mem_without_of_isBlankText member blank named)

end

end Record

end FieldMenu
