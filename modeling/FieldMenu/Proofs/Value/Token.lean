import FieldMenu.Proofs.Text.Case
import FieldMenu.Value.Token

namespace FieldMenu

open Text

namespace Token

structure IsToken (token : String) : Prop where
  filled : token ≠ ""
  trimmed : trim token.toList = token.toList
  single : separator ∉ token.toList

theorem isToken_of_mem_split {value token : String} (member : token ∈ split value) :
    IsToken token := by
  refine ⟨ne_empty_of_mem_fieldsOf member, ?_, ?_⟩
  · simp only [split, fieldsOf, List.mem_map, List.mem_filter] at member
    obtain ⟨_, ⟨⟨piece, _, rfl⟩, _⟩, rfl⟩ := member
    rw [String.toList_ofList, trim_trim]
  · simp only [split, fieldsOf, List.mem_map, List.mem_filter] at member
    obtain ⟨_, ⟨⟨piece, inPieces, rfl⟩, _⟩, rfl⟩ := member
    rw [String.toList_ofList]
    have within : trim piece ⊆ piece :=
      List.Subset.trans (trim_prefix_trimStart piece).subset
        (trimStart_suffix piece).subset
    exact fun inTrimmed => not_mem_of_mem_splitOn inPieces (within inTrimmed)

theorem isToken_of_mem_listOf {value : Option String} {token : String}
    (member : token ∈ listOf value) : IsToken token := by
  cases value with
  | none => cases member
  | some value => exact isToken_of_mem_split member

theorem IsToken.of_same {token other : String} (valid : IsToken token)
    (same : sameIgnoringCase token other = true) : IsToken other := by
  have lowercased : lowercase token.toList = lowercase other.toList :=
    String.ofList_injective (sameIgnoringCase_iff.mp same)
  have empty := eq_nil_iff_of_lowercase lowercased
  rw [String.toList_eq_nil_iff, String.toList_eq_nil_iff] at empty
  exact ⟨fun isEmpty => valid.filled (empty.mpr isEmpty),
    trim_eq_self_of_lowercase lowercased valid.trimmed,
    fun member => valid.single ((mem_iff_of_lowercase lowercased rfl).mpr member)⟩

theorem isToken_of_contains {value : Option String} {token : String}
    (contained : contains value token = true) : IsToken token := by
  obtain ⟨known, member, same⟩ := List.any_eq_true.mp contained
  exact (isToken_of_mem_listOf member).of_same same

theorem map_trim_splitOn_join {tokens : List String} (nonempty : tokens ≠ [])
    (valid : ∀ token ∈ tokens, IsToken token) :
    (splitOn separator (join tokens).toList).map trim = tokens.map String.toList := by
  obtain ⟨token, tokens, rfl⟩ := List.exists_cons_of_ne_nil nonempty
  have others : ∀ piece ∈ tokens.map String.toList, separator ∉ piece := by
    intro piece member
    obtain ⟨other, inTokens, rfl⟩ := List.mem_map.mp member
    exact (valid other (List.mem_cons_of_mem _ inTokens)).single
  -- Cut at the separators, all pieces but the first still have the blank of the joiner.
  have pieces : splitOn separator (join (token :: tokens)).toList =
      token.toList :: (tokens.map String.toList).map fun other => ' ' :: other := by
    rw [join, joinWith, String.toList_ofList, List.map_cons]
    exact splitOn_intercalate [' '] (by decide) others (valid token List.mem_cons_self).single
  rw [pieces, List.map_cons, List.map_cons, List.map_map, List.map_map,
    (valid token List.mem_cons_self).trimmed, List.cons.injEq]
  refine ⟨rfl, List.map_congr_left fun other member => ?_⟩
  show trim (' ' :: other.toList) = other.toList
  rw [trim_cons_of_blank _ rfl, (valid other (List.mem_cons_of_mem _ member)).trimmed]

theorem split_join {tokens : List String} (valid : ∀ token ∈ tokens, IsToken token) :
    split (join tokens) = tokens := by
  by_cases empty : tokens = []
  · subst empty
    rfl
  · rw [split, fieldsOf, map_trim_splitOn_join empty valid, List.filter_eq_self.mpr, List.map_map]
    · simp [Function.comp_def]
    · intro piece member
      obtain ⟨token, inTokens, rfl⟩ := List.mem_map.mp member
      simpa using (valid token inTokens).filled

theorem listOf_join {tokens : List String} (valid : ∀ token ∈ tokens, IsToken token) :
    listOf (some (join tokens)) = tokens :=
  split_join valid

theorem add?_of_missing {value : Option String} {token : String}
    (missing : contains value token = false) :
    add? value token = some (join (listOf value ++ [token])) := by
  rw [add?, missing]
  rfl

theorem add?_of_contained {value : Option String} {token : String}
    (contained : contains value token = true) : add? value token = none :=
  add?_eq_none_iff.mpr contained

def kept (value : Option String) (token : String) : List String :=
  (listOf value).filter fun known => !sameIgnoringCase known token

theorem remove_of_last {value : Option String} {token : String}
    (contained : contains value token = true) (last : kept value token = []) :
    remove value token = .removeField := by
  rw [remove, if_pos contained]
  exact if_pos (List.isEmpty_iff.mpr last)

theorem remove_of_more {value : Option String} {token : String}
    (contained : contains value token = true) (more : kept value token ≠ []) :
    remove value token = .replace (join (kept value token)) := by
  rw [remove, if_pos contained]
  exact if_neg fun empty => more (List.isEmpty_iff.mp empty)

theorem listOf_added {value : Option String} {token : String} (valid : IsToken token) :
    listOf (some (join (listOf value ++ [token]))) = listOf value ++ [token] := by
  refine listOf_join fun other member => ?_
  rcases List.mem_append.mp member with held | added
  · exact isToken_of_mem_listOf held
  · rwa [List.mem_singleton.mp added]

theorem listOf_kept (value : Option String) (token : String) :
    listOf (some (join (kept value token))) = kept value token :=
  listOf_join fun _ member => isToken_of_mem_listOf (List.mem_filter.mp member).1

theorem contains_added {value : Option String} {token : String} (valid : IsToken token) :
    contains (some (join (listOf value ++ [token]))) token = true := by
  rw [contains, listOf_added valid, List.any_append, Bool.or_eq_true]
  exact .inr (List.any_eq_true.mpr ⟨token, List.mem_singleton_self _, sameIgnoringCase_self token⟩)

theorem contains_kept (value : Option String) (token : String) :
    contains (some (join (kept value token))) token = false := by
  rw [contains, listOf_kept, List.any_eq_false]
  intro known member
  simpa using (List.mem_filter.mp member).2

/-- A value as it is written: of tokens that can be read back, and at least one. -/
def Joined (value : Option String) : Prop :=
  ∃ tokens, tokens ≠ [] ∧ (∀ token ∈ tokens, IsToken token) ∧ value = some (join tokens)

theorem joined_added {value : Option String} {token : String} (valid : IsToken token) :
    Joined (some (join (listOf value ++ [token]))) := by
  refine ⟨listOf value ++ [token], List.concat_ne_nil _ _, fun other member => ?_, rfl⟩
  rcases List.mem_append.mp member with held | added
  · exact isToken_of_mem_listOf held
  · rwa [List.mem_singleton.mp added]

theorem joined_kept {value : Option String} {token : String} (more : kept value token ≠ []) :
    Joined (some (join (kept value token))) :=
  ⟨kept value token, more,
    fun _ member => isToken_of_mem_listOf (List.mem_filter.mp member).1, rfl⟩

end Token

end FieldMenu
