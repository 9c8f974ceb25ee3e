import FieldMenu.Proofs.Value.Order
import Mathlib.Data.List.Induction

namespace FieldMenu

open Text

theorem sameIgnoringCase_congr {name other : String} (same : sameIgnoringCase name other = true)
    (third : String) : sameIgnoringCase name third = sameIgnoringCase other third := by
  rw [sameIgnoringCase, sameIgnoringCase, sameIgnoringCase_iff.mp same]

theorem sameIgnoringCase_comm (name other : String) :
    sameIgnoringCase name other = sameIgnoringCase other name := by
  rw [Bool.eq_iff_iff, sameIgnoringCase_iff, sameIgnoringCase_iff, eq_comm]

theorem any_of_mem {name : String} {names : List String} (member : name ∈ names) :
    (names.any fun known => sameIgnoringCase known name) = true :=
  List.any_eq_true.mpr ⟨name, member, sameIgnoringCase_self name⟩

def DistinctNames (names : List String) : Prop :=
  names.Pairwise fun name other => sameIgnoringCase name other = false

theorem DistinctNames.nodup_map_lowered {names : List String} (distinct : DistinctNames names) :
    (names.map lowered).Nodup :=
  List.pairwise_map.mpr (distinct.imp sameIgnoringCase_eq_false_iff.mp)

def countForm (form : String) (values : List String) : Nat :=
  values.countP fun value => lowered value == form

theorem countForm_eq_zero_iff {value : String} {values : List String} :
    countForm (lowered value) values = 0 ↔
      (values.any fun known => sameIgnoringCase known value) = false := by
  rw [countForm, List.countP_eq_zero, List.any_eq_false]
  rfl

theorem countForm_cons (form value : String) (values : List String) :
    countForm form (value :: values) =
      countForm form values + if lowered value = form then 1 else 0 := by
  rw [countForm, List.countP_cons, ← countForm]
  simp only [beq_iff_eq]

theorem countForm_concat (form value : String) (values : List String) :
    countForm form (values ++ [value]) =
      countForm form values + if lowered value = form then 1 else 0 := by
  rw [countForm, List.countP_append, ← countForm, ← countForm, countForm_cons]
  exact congrArg _ (Nat.zero_add _)

theorem countForm_of_distinctNames {names : List String} (distinct : DistinctNames names)
    (name : String) :
    countForm (lowered name) names =
      if (names.any fun known => sameIgnoringCase known name) = true then 1 else 0 := by
  induction names with
  | nil => rfl
  | cons known names ih =>
      obtain ⟨apart, distinctRest⟩ := List.pairwise_cons.mp distinct
      rw [countForm_cons, List.any_cons]
      cases same : sameIgnoringCase known name with
      | false =>
          rw [if_neg (sameIgnoringCase_eq_false_iff.mp same), Nat.add_zero, ih distinctRest,
            Bool.false_or]
      | true =>
          -- A name behind this one would agree with it as well.
          have others : countForm (lowered name) names = 0 := by
            refine countForm_eq_zero_iff.mpr (List.any_eq_false.mpr fun other member => ?_)
            rw [sameIgnoringCase_comm, ← sameIgnoringCase_congr same]
            exact Bool.eq_false_iff.mp (apart other member)
          rw [others, if_pos (sameIgnoringCase_iff.mp same), Bool.true_or, if_pos rfl]

def addSpelling (seen : List String) (value : String) : List String :=
  if seen.any fun known => sameIgnoringCase known value then seen else seen ++ [value]

theorem firstSpellings_eq_foldl (values : List String) :
    firstSpellings values = values.foldl addSpelling [] :=
  rfl

section

variable {seen values : List String} {value : String}

theorem addSpelling_of_known (known : (seen.any fun known => sameIgnoringCase known value) = true) :
    addSpelling seen value = seen :=
  if_pos known

theorem addSpelling_of_new (new : (seen.any fun known => sameIgnoringCase known value) = false) :
    addSpelling seen value = seen ++ [value] := by
  rw [addSpelling, new, if_neg Bool.false_ne_true]

theorem any_addSpelling (seen : List String) (value other : String) :
    ((addSpelling seen value).any fun known => sameIgnoringCase known other) =
      ((seen.any fun known => sameIgnoringCase known other) || sameIgnoringCase value other) := by
  cases known : seen.any fun known => sameIgnoringCase known value with
  | false =>
      rw [addSpelling_of_new known, List.any_append, List.any_cons, List.any_nil, Bool.or_false]
  | true =>
      rw [addSpelling_of_known known]
      cases same : sameIgnoringCase value other with
      | false => rw [Bool.or_false]
      | true =>
          -- The value that is known already agrees with the other one as well.
          obtain ⟨spelling, member, sameValue⟩ := List.any_eq_true.mp known
          rw [Bool.or_true, List.any_eq_true]
          exact ⟨spelling, member, (sameIgnoringCase_congr sameValue other).trans same⟩

theorem any_foldl_addSpelling (seen values : List String) (other : String) :
    ((values.foldl addSpelling seen).any fun known => sameIgnoringCase known other) =
      ((seen.any fun known => sameIgnoringCase known other) ||
        values.any fun known => sameIgnoringCase known other) := by
  induction values generalizing seen with
  | nil => rw [List.foldl_nil, List.any_nil, Bool.or_false]
  | cons value values ih =>
      rw [List.foldl_cons, ih, any_addSpelling, List.any_cons, Bool.or_assoc]

theorem exists_foldl_addSpelling (seen values : List String) :
    ∃ added, values.foldl addSpelling seen = seen ++ added ∧ added.Sublist values := by
  induction values generalizing seen with
  | nil => exact ⟨[], (List.append_nil seen).symm, List.Sublist.refl _⟩
  | cons value values ih =>
      rw [List.foldl_cons]
      cases known : seen.any fun known => sameIgnoringCase known value with
      | true =>
          obtain ⟨added, split, kept⟩ := ih seen
          rw [addSpelling_of_known known]
          exact ⟨added, split, kept.cons value⟩
      | false =>
          obtain ⟨added, split, kept⟩ := ih (seen ++ [value])
          rw [addSpelling_of_new known]
          exact ⟨value :: added, by rw [split, List.append_assoc, List.singleton_append],
            kept.cons_cons value⟩

theorem distinctNames_addSpelling (distinct : DistinctNames seen) (value : String) :
    DistinctNames (addSpelling seen value) := by
  cases known : seen.any fun known => sameIgnoringCase known value with
  | true => rwa [addSpelling_of_known known]
  | false =>
      rw [addSpelling_of_new known, DistinctNames, List.pairwise_append]
      refine ⟨distinct, List.pairwise_singleton _ _, fun spelling member => ?_⟩
      rw [List.forall_mem_singleton]
      exact Bool.eq_false_iff.mpr (List.any_eq_false.mp known spelling member)

theorem distinctNames_foldl_addSpelling (distinct : DistinctNames seen) (values : List String) :
    DistinctNames (values.foldl addSpelling seen) := by
  induction values generalizing seen with
  | nil => exact distinct
  | cons value values ih => exact ih (distinctNames_addSpelling distinct value)

theorem foldl_addSpelling_of_distinct (distinct : DistinctNames (seen ++ values)) :
    values.foldl addSpelling seen = seen ++ values := by
  induction values generalizing seen with
  | nil => rw [List.foldl_nil, List.append_nil]
  | cons value values ih =>
      have new : (seen.any fun known => sameIgnoringCase known value) = false := by
        refine List.any_eq_false.mpr fun known member => Bool.eq_false_iff.mp ?_
        exact (List.pairwise_append.mp distinct).2.2 known member value List.mem_cons_self
      rw [List.append_cons] at distinct ⊢
      rw [List.foldl_cons, addSpelling_of_new new, ih distinct]

theorem any_firstSpellings (values : List String) (other : String) :
    ((firstSpellings values).any fun known => sameIgnoringCase known other) =
      values.any fun known => sameIgnoringCase known other := by
  rw [firstSpellings_eq_foldl, any_foldl_addSpelling, List.any_nil, Bool.false_or]

theorem firstSpellings_sublist (values : List String) : (firstSpellings values).Sublist values := by
  obtain ⟨added, split, kept⟩ := exists_foldl_addSpelling [] values
  rw [firstSpellings_eq_foldl, split]
  exact kept

theorem distinctNames_firstSpellings (values : List String) :
    DistinctNames (firstSpellings values) :=
  distinctNames_foldl_addSpelling .nil values

theorem length_firstSpellings_eq_iff :
    (firstSpellings values).length = values.length ↔ DistinctNames values := by
  constructor
  · intro same
    rw [← (firstSpellings_sublist values).eq_of_length same]
    exact distinctNames_firstSpellings values
  · intro distinct
    have all : values.foldl addSpelling [] = [] ++ values := foldl_addSpelling_of_distinct distinct
    rw [firstSpellings_eq_foldl, all, List.nil_append]

theorem firstSpellings_concat (values : List String) (value : String) :
    firstSpellings (values ++ [value]) = addSpelling (firstSpellings values) value := by
  rw [firstSpellings_eq_foldl, List.foldl_append, ← firstSpellings_eq_foldl]
  rfl

theorem exists_of_mem_firstSpellings {spelling : String}
    (member : spelling ∈ firstSpellings values) :
    ∃ before after, values = before ++ spelling :: after ∧
      ∀ value ∈ before, sameIgnoringCase value spelling = false := by
  induction values using List.reverseRecOn with
  | nil => cases member
  | append_singleton values value ih =>
      rw [firstSpellings_concat] at member
      have earlier (inFront : spelling ∈ firstSpellings values) :
          ∃ before after, values ++ [value] = before ++ spelling :: after ∧
            ∀ value ∈ before, sameIgnoringCase value spelling = false := by
        obtain ⟨before, after, split, apart⟩ := ih inFront
        exact ⟨before, after ++ [value], by rw [split, List.append_assoc, List.cons_append], apart⟩
      cases known : (firstSpellings values).any fun known => sameIgnoringCase known value with
      | true =>
          rw [addSpelling_of_known known] at member
          exact earlier member
      | false =>
          rw [addSpelling_of_new known] at member
          rcases List.mem_append.mp member with inFront | last
          · exact earlier inFront
          · obtain rfl := List.mem_singleton.mp last
            rw [any_firstSpellings] at known
            exact ⟨values, [], rfl, fun other held =>
              Bool.eq_false_iff.mpr (List.any_eq_false.mp known other held)⟩

theorem mem_map_lowered_firstSpellings {form : String} :
    form ∈ (firstSpellings values).map lowered ↔ form ∈ values.map lowered := by
  constructor
  · exact fun member => ((firstSpellings_sublist values).map lowered).subset member
  · intro member
    obtain ⟨value, held, rfl⟩ := List.mem_map.mp member
    have known := any_of_mem held
    rw [← any_firstSpellings] at known
    obtain ⟨spelling, kept, same⟩ := List.any_eq_true.mp known
    exact List.mem_map.mpr ⟨spelling, kept, sameIgnoringCase_iff.mp same⟩

theorem perm_map_lowered_firstSpellings {others : List String} (perm : values.Perm others) :
    ((firstSpellings values).map lowered).Perm ((firstSpellings others).map lowered) := by
  refine (List.perm_ext_iff_of_nodup (distinctNames_firstSpellings values).nodup_map_lowered
    (distinctNames_firstSpellings others).nodup_map_lowered).mpr fun form => ?_
  rw [mem_map_lowered_firstSpellings, mem_map_lowered_firstSpellings, (perm.map lowered).mem_iff]

theorem firstSpellings_eq_nil_iff : firstSpellings values = [] ↔ values = [] := by
  cases values with
  | nil => exact iff_of_true rfl rfl
  | cons value values =>
      obtain ⟨added, split, _⟩ := exists_foldl_addSpelling [value] values
      refine iff_of_false ?_ (List.cons_ne_nil _ _)
      rw [firstSpellings_eq_foldl, List.foldl_cons, addSpelling_of_new List.any_nil,
        List.nil_append, split]
      exact List.cons_ne_nil _ _

end

theorem SortOrder.pairwise_sort_alphabetical {names : List String} (distinct : DistinctNames names)
    (counts : Option CountTable) :
    (alphabetical.sort counts names).Pairwise fun name other => lowered name < lowered other := by
  have apart : DistinctNames (alphabetical.sort counts names) := by
    refine List.Pairwise.perm distinct (perm_sort _ _ _).symm fun different => ?_
    rwa [sameIgnoringCase_comm]
  refine ((alphabetical.pairwise_sort counts names).and apart).imp fun ⟨before, different⟩ => ?_
  have forms := Prod.Lex.toLex_le_toLex.mp before.formKey
  have le := (forms.resolve_left (lt_irrefl 0)).2
  exact lt_of_le_of_ne le (sameIgnoringCase_eq_false_iff.mp different)

end FieldMenu
