import FieldMenu.Proofs.Value.Spelling
import FieldMenu.Proofs.Value.Token

namespace FieldMenu

open Text

namespace Token

theorem isToken_iff_exists_mem_split {token : String} :
    IsToken token ↔ ∃ value, token ∈ split value := by
  constructor
  · intro valid
    have joined : split (join [token]) = [token] :=
      split_join (List.forall_mem_singleton.mpr valid)
    refine ⟨join [token], ?_⟩
    rw [joined]
    exact List.mem_singleton_self token
  · rintro ⟨value, member⟩
    exact isToken_of_mem_split member

/-- No piece of the text between two separators is empty or blank. -/
def Filled (value : String) : Prop :=
  ∀ piece ∈ splitOn separator value.toList, trim piece ≠ []

theorem filled_join {tokens : List String} (nonempty : tokens ≠ [])
    (valid : ∀ token ∈ tokens, IsToken token) : Filled (join tokens) := by
  intro piece member
  have trimmed := List.mem_map_of_mem (f := trim) member
  rw [map_trim_splitOn_join nonempty valid] at trimmed
  obtain ⟨token, inTokens, same⟩ := List.mem_map.mp trimmed
  rw [← same, Ne, String.toList_eq_nil_iff]
  exact (valid token inTokens).filled

theorem Joined.filled {value : String} (joined : Joined (some value)) : Filled value := by
  obtain ⟨tokens, nonempty, valid, same⟩ := joined
  rw [Option.some.inj same]
  exact filled_join nonempty valid

section

variable {value : Option String} {token other : String}

theorem contains_congr (same : sameIgnoringCase token other = true) (value : Option String) :
    contains value token = contains value other := by
  simp only [contains, sameIgnoringCase, sameIgnoringCase_iff.mp same]

theorem kept_added (valid : IsToken token) (missing : contains value token = false)
    (same : sameIgnoringCase token other = true) :
    kept (some (join (listOf value ++ [token]))) other = listOf value := by
  have others : (listOf value).filter (fun known => !sameIgnoringCase known other) =
      listOf value := by
    rw [contains_congr same, contains, List.any_eq_false] at missing
    refine List.filter_eq_self.mpr fun known member => ?_
    rw [Bool.eq_false_iff.mpr (missing known member)]
    rfl
  rw [kept, listOf_added valid, List.filter_append, others, List.filter_singleton, same]
  exact List.append_nil _

/-- What is left of a value when a token has been taken out of it. -/
def Removal.Leaves (tokens : List String) : Removal → Prop
  | .unchanged => False
  | .replace value => tokens ≠ [] ∧ listOf (some value) = tokens
  | .removeField => tokens = []

theorem leaves_remove (contained : contains value token = true) :
    (remove value token).Leaves (kept value token) := by
  by_cases more : kept value token = []
  · rw [remove_of_last contained more]
    exact more
  · rw [remove_of_more contained more]
    exact ⟨more, listOf_kept value token⟩

theorem remove_added (valid : IsToken token) (missing : contains value token = false)
    (same : sameIgnoringCase token other = true) :
    remove (some (join (listOf value ++ [token]))) other =
      if listOf value = [] then .removeField else .replace (join (listOf value)) := by
  have contained : contains (some (join (listOf value ++ [token]))) other = true := by
    rw [← contains_congr same]
    exact contains_added valid
  have left := kept_added valid missing same
  by_cases alone : listOf value = []
  · rw [if_pos alone]
    exact remove_of_last contained (left.trans alone)
  · rw [if_neg alone, remove_of_more contained (by rwa [left]), left]

theorem filled_of_add? {written : String} (valid : IsToken token)
    (adds : add? value token = some written) : Filled written := by
  cases contained : contains value token with
  | true =>
      rw [add?_of_contained contained] at adds
      cases adds
  | false =>
      rw [add?_of_missing contained, Option.some.injEq] at adds
      rw [← adds]
      exact (joined_added valid).filled

theorem filled_of_remove {written : String} (removes : remove value token = .replace written) :
    Filled written := by
  cases contained : contains value token with
  | false =>
      rw [remove_eq_unchanged_iff.mpr contained] at removes
      cases removes
  | true =>
      by_cases more : kept value token = []
      · rw [remove_of_last contained more] at removes
        cases removes
      · rw [remove_of_more contained more, Removal.replace.injEq] at removes
        rw [← removes]
        exact (joined_kept more).filled

end

/-- A token that is missing is added behind the others, is known then in all its spellings, and each
of them takes it out again.  One that is there goes in all its spellings, and the other tokens stay.
Nothing that is written has an empty piece. -/
theorem add_remove (value : Option String) (token : String) (valid : IsToken token) :
    (contains value token = false → ∃ added, add? value token = some added ∧
      listOf (some added) = listOf value ++ [token] ∧
      ∀ other, sameIgnoringCase token other = true →
        add? (some added) other = none ∧
        remove (some added) other =
          if listOf value = [] then .removeField else .replace (join (listOf value))) ∧
      (contains value token = true → add? value token = none ∧
        (remove value token).Leaves
          ((listOf value).filter fun known => !sameIgnoringCase known token)) ∧
      ∀ written, add? value token = some written ∨ remove value token = .replace written →
        Filled written := by
  refine ⟨fun missing => ?_, fun contained => ?_, fun written writes => ?_⟩
  · refine ⟨_, add?_of_missing missing, listOf_added valid, fun other same => ⟨?_, ?_⟩⟩
    · rw [add?_eq_none_iff, ← contains_congr same]
      exact contains_added valid
    · exact remove_added valid missing same
  · exact ⟨add?_of_contained contained, leaves_remove contained⟩
  · exact writes.elim (filled_of_add? valid) filled_of_remove

/-- Added to a value with stray separators and taken out in another spelling: the value comes back
tidied up, and what it holds already is not added once more. -/
theorem add_remove_respelled :
    let value := ";Solo ; co-op;; Solo"
    IsToken "LAN" ∧ add? (some value) "LAN" = some "Solo; co-op; Solo; LAN" ∧
      remove (some "Solo; co-op; Solo; LAN") "lan" = .replace "Solo; co-op; Solo" ∧
      add? (some value) "CO-OP" = none ∧ (remove (some value) "CO-OP").Leaves ["Solo", "Solo"] := by
  intro value
  have valid : IsToken "LAN" := isToken_iff_exists_mem_split.mpr ⟨"; LAN ", by decide⟩
  have held : IsToken "CO-OP" := isToken_iff_exists_mem_split.mpr ⟨"Solo;CO-OP", by decide⟩
  obtain ⟨missing, -⟩ := add_remove (some value) "LAN" valid
  obtain ⟨added, adds, -, others⟩ := missing (by decide)
  have written : added = "Solo; co-op; Solo; LAN" := Option.some.inj (adds.symm.trans (by decide))
  subst written
  obtain ⟨-, contained, -⟩ := add_remove (some value) "CO-OP" held
  obtain ⟨known, leaves⟩ := contained (by decide)
  have left : (listOf (some value)).filter (fun known => !sameIgnoringCase known "CO-OP") =
      ["Solo", "Solo"] := by decide
  rw [left] at leaves
  exact ⟨valid, adds, (others "lan" (by decide)).2.trans (by decide), known, leaves⟩

end Token

end FieldMenu
