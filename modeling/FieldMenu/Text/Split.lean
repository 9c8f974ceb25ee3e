import FieldMenu.Text.Blank

namespace FieldMenu.Text

def splitOn (separator : Char) : List Char → List (List Char)
  | [] => [[]]
  | c :: rest =>
      if c = separator then [] :: splitOn separator rest
      else
        match splitOn separator rest with
        | [] => [[c]]
        | piece :: pieces => (c :: piece) :: pieces

/-- The pieces between the separators, each without the white space around it, and none empty. -/
def fieldsOf (separator : Char) (text : String) : List String :=
  (((splitOn separator text.toList).map trim).filter fun piece => !piece.isEmpty).map String.ofList

theorem ne_empty_of_mem_fieldsOf {separator : Char} {text piece : String}
    (h : piece ∈ fieldsOf separator text) : piece ≠ "" := by
  simp only [fieldsOf, List.mem_map, List.mem_filter] at h
  obtain ⟨raw, ⟨_, filled⟩, rfl⟩ := h
  intro empty
  have : raw = [] := by simpa using congrArg String.toList empty
  simp [this] at filled

def joinWith (joiner : String) (pieces : List String) : String :=
  String.ofList (List.intercalate joiner.toList (pieces.map String.toList))

theorem splitOn_ne_nil (separator : Char) (text : List Char) : splitOn separator text ≠ [] := by
  cases text with
  | nil => simp [splitOn]
  | cons c rest =>
      unfold splitOn
      split
      · simp
      · split <;> simp

theorem not_mem_of_mem_splitOn {separator : Char} {text piece : List Char}
    (h : piece ∈ splitOn separator text) : separator ∉ piece := by
  induction text generalizing piece with
  | nil =>
      have : piece = [] := by simpa [splitOn] using h
      simp [this]
  | cons c rest ih =>
      unfold splitOn at h
      split at h
      · cases h with
        | head => simp
        | tail _ later => exact ih later
      · rename_i different
        split at h
        · have : piece = [c] := by simpa using h
          simpa [this] using fun same => different same.symm
        · rename_i first others pieces
          cases h with
          | head =>
              have := ih (by rw [pieces]; exact List.mem_cons_self)
              simpa [this] using fun same => different same.symm
          | tail _ later => exact ih (by rw [pieces]; exact List.mem_cons_of_mem _ later)

end FieldMenu.Text
