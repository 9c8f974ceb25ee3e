import FieldMenu.Text.Split
import Mathlib.Data.List.DropRight

namespace FieldMenu.Text

theorem trim_prefix_trimStart (text : List Char) : trim text <+: trimStart text :=
  List.rdropWhile_prefix isBlank (trimStart text)

theorem trimStart_trim (text : List Char) : trimStart (trim text) = trim text := by
  cases trimmed : trim text with
  | nil => rfl
  | cons c rest =>
      obtain ⟨more, whole⟩ := trim_prefix_trimStart text
      rw [trimmed, List.cons_append] at whole
      have notBlank := List.head?_dropWhile_not isBlank text
      rw [show text.dropWhile isBlank = c :: (rest ++ more) from whole.symm] at notBlank
      exact trimStart_cons_of_not_blank rest notBlank

@[simp] theorem trim_trim (text : List Char) : trim (trim text) = trim text := by
  have start := trimStart_trim text
  rw [trim, start]
  exact List.rdropWhile_idempotent isBlank (trimStart text)

theorem trim_cons_of_blank {c : Char} (text : List Char) (blank : isBlank c = true) :
    trim (c :: text) = trim text := by
  rw [trim, trimStart_cons_of_blank text blank, trim]

theorem trim_eq_nil_iff {text : List Char} : trim text = [] ↔ ∀ c ∈ text, isBlank c = true := by
  induction text with
  | nil => exact iff_of_true rfl (List.forall_mem_nil _)
  | cons c rest ih =>
      rw [List.forall_mem_cons]
      cases blank : isBlank c with
      | true => rw [trim_cons_of_blank rest blank, ih, and_iff_right rfl]
      | false =>
          refine iff_of_false (fun empty => ?_) fun all => Bool.false_ne_true all.1
          rw [trim, trimStart_cons_of_not_blank rest blank] at empty
          have isBlank_c := List.rdropWhile_eq_nil_iff.mp empty c List.mem_cons_self
          rw [blank] at isBlank_c
          cases isBlank_c

section

variable {separator : Char} {piece : List Char}

theorem splitOn_of_not_mem (absent : separator ∉ piece) : splitOn separator piece = [piece] := by
  induction piece with
  | nil => rfl
  | cons c piece ih =>
      rw [List.mem_cons, not_or] at absent
      rw [splitOn, if_neg (Ne.symm absent.1), ih absent.2]

theorem splitOn_append_cons (absent : separator ∉ piece) (rest : List Char) :
    splitOn separator (piece ++ separator :: rest) = piece :: splitOn separator rest := by
  induction piece with
  | nil => simp [splitOn]
  | cons c piece ih =>
      rw [List.mem_cons, not_or] at absent
      rw [List.cons_append, splitOn, if_neg (Ne.symm absent.1), ih absent.2]

theorem exists_splitOn_append (absent : separator ∉ piece) (text : List Char) :
    ∃ front last, splitOn separator text = front ++ [last] ∧
      splitOn separator (text ++ piece) = front ++ [last ++ piece] := by
  induction text with
  | nil => exact ⟨[], [], rfl, splitOn_of_not_mem absent⟩
  | cons c text ih =>
      obtain ⟨front, last, whole, longer⟩ := ih
      rw [List.cons_append, splitOn, splitOn, whole, longer]
      by_cases cut : c = separator
      · rw [if_pos cut, if_pos cut]
        exact ⟨[] :: front, last, rfl, rfl⟩
      · rw [if_neg cut, if_neg cut]
        cases front with
        | nil => exact ⟨[], c :: last, rfl, rfl⟩
        | cons first front => exact ⟨(c :: first) :: front, last, rfl, rfl⟩

/-- Pieces that are joined with a separator and a gap come back with the gap before them, all but
the first. -/
theorem splitOn_intercalate (gap : List Char) {pieces : List (List Char)}
    (gapAbsent : separator ∉ gap) (absent : ∀ piece ∈ pieces, separator ∉ piece)
    (pieceAbsent : separator ∉ piece) :
    splitOn separator (List.intercalate (separator :: gap) (piece :: pieces)) =
      piece :: pieces.map fun other => gap ++ other := by
  induction pieces generalizing piece with
  | nil =>
      rw [List.intercalate_singleton]
      exact splitOn_of_not_mem pieceAbsent
  | cons next pieces ih =>
      have nextAbsent : separator ∉ gap ++ next := by
        rw [List.mem_append, not_or]
        exact ⟨gapAbsent, absent next List.mem_cons_self⟩
      -- Behind the first separator, the gap is the start of the next piece.
      have others := ih (fun other member => absent other (List.mem_cons_of_mem _ member))
        nextAbsent
      have moved : gap ++ List.intercalate (separator :: gap) (next :: pieces) =
          List.intercalate (separator :: gap) ((gap ++ next) :: pieces) := by
        cases pieces <;> simp
      rw [List.intercalate_cons_cons, List.append_assoc, List.cons_append,
        splitOn_append_cons pieceAbsent, moved, others, List.map_cons]

end

end FieldMenu.Text
