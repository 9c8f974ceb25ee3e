import FieldMenu.Proofs.Layout.Brackets
import FieldMenu.Proofs.Scan.Cut
import FieldMenu.Proofs.Scan.Objects

namespace FieldMenu.Layout

open Scan Text

structure IsObject (text : List Char) : Prop where
  value : IsValue text
  head : text.head? = some '{'

def Separates (text : List Char) : Prop :=
  '"' ∉ text ∧ '{' ∉ text ∧ '}' ∉ text

structure Unterminated (text : List Char) : Prop where
  head : text.head? = some '{'
  never : matchingBracket? text 0 = none

structure Piece where
  before : List Char
  object : List Char
  separates : Separates before
  isObject : IsObject object

def Piece.text (piece : Piece) : List Char :=
  piece.before ++ piece.object

theorem Separates.splits {front rest : List Char} (separates : Separates front)
    {found : List (List Char)} (splits : Splits .outside rest found) :
    Splits .outside (front ++ rest) found :=
  splits.append_of_no_mark separates.1 separates.2.1

theorem IsObject.splits {object rest : List Char} (isObject : IsObject object)
    {found : List (List Char)} (splits : Splits .outside rest found) :
    Splits .outside (object ++ rest) (object :: found) := by
  have pair : closerOf? '{' = some '}' := rfl
  obtain ⟨inner, rfl, balanced⟩ := isObject.value.exists_inner pair isObject.head
  have whole : '{' :: inner ++ ['}'] ++ rest = '{' :: (inner ++ '}' :: rest) := by simp
  rw [whole]
  exact .object (enclosed?_closer balanced pair rest) splits

theorem Unterminated.splits {text : List Char} (unterminated : Unterminated text) :
    Splits .outside text [] := by
  obtain ⟨rest, rfl⟩ := List.head?_eq_some_iff.mp unterminated.head
  exact .unclosed (Option.map_eq_none_iff.mp unterminated.never)

theorem splits_pieces (pieces : List Piece) {rest : List Char} {found : List (List Char)}
    (splits : Splits .outside rest found) :
    Splits .outside (pieces.flatMap Piece.text ++ rest) (pieces.map Piece.object ++ found) := by
  induction pieces with
  | nil => exact splits
  | cons piece pieces ih =>
      rw [List.flatMap_cons, Piece.text, List.append_assoc, List.append_assoc]
      exact piece.separates.splits (piece.isObject.splits ih)

theorem IsObject.unterminated {kept lost : List Char} (isObject : IsObject (kept ++ lost))
    (filled : kept ≠ []) (cut : lost ≠ []) : Unterminated kept := by
  have pair : closerOf? '{' = some '}' := rfl
  obtain ⟨inner, whole, balanced⟩ := isObject.value.exists_inner pair isObject.head
  obtain ⟨c, kept, rfl⟩ := List.exists_cons_of_ne_nil filled
  obtain ⟨rfl, tails⟩ := List.cons.inj whole
  obtain ⟨missing, rfl⟩ : ∃ missing, inner = kept ++ missing := by
    rcases List.append_eq_append_iff.mp tails with ⟨missing, within, _⟩ | ⟨more, rfl, last⟩
    · exact ⟨missing, within⟩
    · cases more with
      | nil => exact ⟨[], by simp⟩
      | cons d more =>
          have rest := (List.cons.inj last).2
          exact absurd (List.append_eq_nil_iff.mp rest.symm).2 cut
  have never := enclosed?_of_prefix pair balanced
  exact ⟨rfl, Option.map_eq_none_iff.mpr never⟩

/-- The objects found are disjoint parts of the text, in its order.  Each begins at an opening brace
outside strings and ends where that is matched, and every other opening brace outside strings is in
one of them or behind one that is never closed.  Of objects with text between them that has neither
quotes nor braces in it, and of what is left of an object at the end, exactly the objects are
found; and what is left of an object that is cut off is never closed. -/
theorem objects_split :
    (∀ body : List Char, ∃ spans, AreSpans body 0 spans (objects body)) ∧
    (∀ (pieces : List Piece) (last rest : List Char), Separates last →
      (rest = [] ∨ Unterminated rest) →
        objects (pieces.flatMap Piece.text ++ (last ++ rest)) = pieces.map Piece.object) ∧
    ∀ kept lost : List Char, IsObject (kept ++ lost) → kept ≠ [] → lost ≠ [] →
      Unterminated kept := by
  refine ⟨fun body => ?_, ?_, fun kept lost isObject => isObject.unterminated⟩
  · have state : [].foldl Quoting.step .outside = .outside := rfl
    exact (splits_objects body).exists_spans state
  · intro pieces last rest separates ending
    have splits : Splits .outside rest [] := by
      rcases ending with rfl | unterminated
      · exact .nil .outside
      · exact unterminated.splits
    rw [(splits_pieces pieces (separates.splits splits)).objects_eq, List.append_nil]

/-- A brace in a string and an object in another one cut nothing, and what is left of an object at
the end is left out. -/
theorem objects_split_nested :
    let inner : Slot := { before := .empty, value := ['1'], after := .empty }
    let nested : Field := { inner with lead := .empty, name := ['b'], gap := .empty }
    let outer : Field :=
      { before := .empty, value := objectText .empty [nested], after := .empty
        lead := .empty, name := ['a'], gap := .empty }
    let quoted : Field :=
      { before := .empty, value := "\"\x7d\"".toList, after := .empty
        lead := .empty, name := ['c'], gap := .empty }
    let first := objectText .empty [outer]
    let second := objectText .empty [quoted]
    IsObject first ∧ IsObject second ∧ Unterminated "\x7b\"d\":2".toList ∧
      objects (' ' :: first ++ [','] ++ second ++ ",\x7b\"d\":2".toList) = [first, second] ∧
      ∃ spans, AreSpans first 0 spans (objects first) := by
  intro inner nested outer quoted first second
  let third : Field :=
    { before := .empty, value := ['2'], after := .empty
      lead := .empty, name := ['d'], gap := .empty }
  have one : IsValue inner.value := .word (.inr ⟨.int 1, rfl⟩)
  have nestedFormed : IsValue (objectText .empty [nested]) :=
    .object .empty (List.forall_mem_singleton.mpr rfl) (List.forall_mem_singleton.mpr one)
  have isFirst : IsObject first :=
    ⟨.object .empty (List.forall_mem_singleton.mpr rfl)
      (List.forall_mem_singleton.mpr nestedFormed), rfl⟩
  have isSecond : IsObject second :=
    ⟨.object .empty (List.forall_mem_singleton.mpr rfl)
      (List.forall_mem_singleton.mpr
        (.string (show Quoting.staysInside .inside ['}'] = true from rfl))), rfl⟩
  have thirdFormed : IsValue (objectText .empty [third]) :=
    .object .empty (List.forall_mem_singleton.mpr rfl)
      (List.forall_mem_singleton.mpr (.word (.inr ⟨.int 2, rfl⟩)))
  have isThird : IsObject ("\x7b\"d\":2".toList ++ ['}']) := ⟨thirdFormed, rfl⟩
  obtain ⟨spans, found, cut⟩ := objects_split
  have unterminated := cut _ _ isThird (List.cons_ne_nil _ _) (List.cons_ne_nil _ _)
  have separates {c : Char} (apart : c ≠ '"' ∧ c ≠ '{' ∧ c ≠ '}') : Separates [c] := by
    simpa [Separates, eq_comm] using apart
  let pieces : List Piece :=
    [⟨[' '], first, separates (by decide), isFirst⟩, ⟨[','], second, separates (by decide), isSecond⟩]
  exact ⟨isFirst, isSecond, unterminated,
    found pieces [','] _ (separates (by decide)) (.inr unterminated), spans first⟩

end FieldMenu.Layout
