import FieldMenu.Library.Basic
import Mathlib.Data.List.Nodup

namespace FieldMenu.Library

theorem replace_eq_set (updated : Record) (records : List Record) :
    replace updated records = records.set ((records.map Record.id).idxOf updated.id) updated := by
  induction records with
  | nil => rfl
  | cons record records ih =>
      rw [replace, List.map_cons, List.idxOf_cons]
      by_cases same : record.id = updated.id
      · rw [if_pos same, beq_iff_eq.mpr same, cond_true, List.set_cons_zero]
      · rw [if_neg same, beq_eq_false_iff_ne.mpr same, cond_false, List.set_cons_succ, ih]

theorem map_id_replace (updated : Record) (records : List Record) :
    (replace updated records).map Record.id = records.map Record.id := by
  induction records with
  | nil => rfl
  | cons record records ih =>
      rw [replace]
      split
      · rename_i same
        rw [List.map_cons, List.map_cons, same]
      · rw [List.map_cons, List.map_cons, ih]

def IsFirst (records : List Record) (record : Record) (place : Nat) : Prop :=
  (records.map Record.id).idxOf record.id = place

instance (records : List Record) (record : Record) (place : Nat) :
    Decidable (IsFirst records record place) :=
  inferInstanceAs (Decidable (_ = _))

theorem getElem?_replace (updated : Record) (records : List Record) (place : Nat) :
    (replace updated records)[place]? =
      records[place]?.map fun stored =>
        if stored.id = updated.id ∧ IsFirst records stored place then updated else stored := by
  rw [replace_eq_set, List.getElem?_set]
  cases found : records[place]? with
  | none =>
      have outside : ¬ (records.map Record.id).idxOf updated.id < records.length ∨
          (records.map Record.id).idxOf updated.id ≠ place := by
        rw [List.getElem?_eq_none_iff] at found
        omega
      obtain outside | elsewhere := outside
      · rw [if_neg outside, ite_self]
        rfl
      · rw [if_neg elsewhere]
        rfl
  | some stored =>
      obtain ⟨inside, here⟩ := List.getElem?_eq_some_iff.mp found
      rw [Option.map_some]
      by_cases same : (records.map Record.id).idxOf updated.id = place
      · subst same
        have sameId : stored.id = updated.id := by
          have among : (records.map Record.id).idxOf updated.id <
              (records.map Record.id).length := by
            rwa [List.length_map]
          have first := List.getElem_idxOf among
          rwa [List.getElem_map, here] at first
        have isFirst : IsFirst records stored ((records.map Record.id).idxOf updated.id) := by
          rw [IsFirst, sameId]
        rw [if_pos rfl, if_pos inside, if_pos ⟨sameId, isFirst⟩]
      · rw [if_neg same, if_neg]
        rintro ⟨sameId, isFirst⟩
        rw [IsFirst, sameId] at isFirst
        exact same isFirst

def lastOf? (batch : List Record) (id : String) : Option Record :=
  batch.reverse.find? fun updated => updated.id == id

theorem lastOf?_cons (updated : Record) (batch : List Record) (id : String) :
    lastOf? (updated :: batch) id =
      (lastOf? batch id).or (if updated.id = id then some updated else none) := by
  rw [lastOf?, List.reverse_cons, List.find?_append, lastOf?, List.find?_cons, List.find?_nil]
  by_cases same : updated.id = id
  · rw [if_pos same, beq_iff_eq.mpr same]
  · rw [if_neg same, beq_eq_false_iff_ne.mpr same]

theorem lastOf?_of_mem {batch : List Record} {updated : Record}
    (distinct : (batch.map Record.id).Nodup) (member : updated ∈ batch) :
    lastOf? batch updated.id = some updated := by
  cases found : lastOf? batch updated.id with
  | none =>
      rw [lastOf?, List.find?_eq_none] at found
      exact absurd (beq_self_eq_true _) (found updated (List.mem_reverse.mpr member))
  | some other =>
      have sameId : other.id = updated.id := by simpa using List.find?_some found
      have otherMember := List.mem_reverse.mp (List.mem_of_find?_eq_some found)
      rw [List.inj_on_of_nodup_map distinct otherMember member sameId]

theorem lastOf?_of_not_mem {batch : List Record} {id : String}
    (absent : id ∉ batch.map Record.id) : lastOf? batch id = none := by
  rw [lastOf?, List.find?_eq_none]
  intro updated member same
  rw [beq_iff_eq] at same
  exact absent (List.mem_map.mpr ⟨updated, List.mem_reverse.mp member, same⟩)

theorem map_id_foldl_replace (batch records : List Record) :
    (batch.foldl (fun records updated => replace updated records) records).map Record.id =
      records.map Record.id := by
  induction batch generalizing records with
  | nil => rfl
  | cons updated batch ih => rw [List.foldl_cons, ih, map_id_replace]

theorem getElem?_foldl_replace (batch records : List Record) (place : Nat) :
    (batch.foldl (fun records updated => replace updated records) records)[place]? =
      records[place]?.map fun stored =>
        if IsFirst records stored place then (lastOf? batch stored.id).getD stored else stored := by
  induction batch generalizing records with
  | nil =>
      have same : ∀ stored : Record,
          (if IsFirst records stored place then (lastOf? [] stored.id).getD stored else stored) =
            stored := fun stored => ite_self stored
      simp only [same, List.foldl_nil, Option.map_id']
  | cons updated batch ih =>
      have isFirst_replace (stored : Record) :
          IsFirst (replace updated records) stored place ↔ IsFirst records stored place := by
        rw [IsFirst, map_id_replace, IsFirst]
      rw [List.foldl_cons, ih, getElem?_replace, Option.map_map]
      congr 1
      funext stored
      rw [Function.comp_apply, lastOf?_cons]
      simp only [isFirst_replace]
      by_cases written : stored.id = updated.id ∧ IsFirst records stored place
      · obtain ⟨same, isFirst⟩ := written
        have updatedFirst : IsFirst records updated place := by
          rwa [IsFirst, ← same]
        have current : (if stored.id = updated.id ∧ IsFirst records stored place then updated
            else stored) = updated := if_pos ⟨same, isFirst⟩
        rw [current, if_pos updatedFirst, if_pos isFirst, same, if_pos rfl]
        cases lastOf? batch updated.id <;> rfl
      · have current : (if stored.id = updated.id ∧ IsFirst records stored place then updated
            else stored) = stored := if_neg written
        rw [current]
        by_cases isFirst : IsFirst records stored place
        · have different : updated.id ≠ stored.id := fun same => written ⟨same.symm, isFirst⟩
          rw [if_pos isFirst, if_pos isFirst, if_neg different, Option.or_none]
        · rw [if_neg isFirst, if_neg isFirst]

end FieldMenu.Library
