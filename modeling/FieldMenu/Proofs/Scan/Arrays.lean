import FieldMenu.Proofs.Scan.Matching
import FieldMenu.Proofs.Scan.Strings
import Mathlib.Data.List.DropRight

namespace FieldMenu.Scan

open Text

namespace Offset

variable {text : List Char} {key : String} {member : Member}

theorem valueStart_eq_ok (found : Scan.member? text key = some member) :
    ∃ middle, text = member.before ++ middle ++ trimStart member.value ∧
      valueStart text (memberPlace text member) = .ok (byteLength (member.before ++ middle)) := by
  obtain ⟨middle, whole⟩ := memberFrom?_eq_some found
  have whole : text = member.before ++ middle ++ member.value := whole
  obtain ⟨blank, split, gap⟩ := exists_blank member.value
  refine ⟨middle ++ blank, ?_, ?_⟩
  · rw [← List.append_assoc, List.append_assoc _ blank, ← split, whole]
  · have start : (memberPlace text member).value = byteLength (member.before ++ middle) := by
      rw [memberPlace, whole, byteLength_append, Nat.add_sub_cancel]
    rw [valueStart, start]
    have cut : sliceFrom text (byteLength (member.before ++ middle)) = .ok member.value :=
      sliceFrom_eq_ok_iff.mpr ⟨_, whole, rfl⟩
    rw [cut, Fault.ok_bind, gap, Fault.ok_bind, ← byteLength_append, List.append_assoc]

theorem getElem?_bytes_append_iff {mark : Char} (ascii : isAscii mark = true)
    (front behind : List Char) :
    (bytes (front ++ behind))[byteLength front]? = some mark.toUInt8 ↔
      ∃ rest, behind = mark :: rest := by
  rw [getElem?_bytes_eq_some_iff ascii, suffixAt?_append]
  simp only [Option.some.injEq]

theorem arrayParts?_cases {front value : List Char} (whole : text = front ++ trimStart value) :
    (∃ body behind, text = front ++ '[' :: body ++ ']' :: behind ∧
        arrayParts? value = some (body, behind) ∧
        (bytes text)[byteLength front]? = some '['.toUInt8 ∧
        Scan.matchingBracket? text (byteLength front) = some (byteLength (front ++ '[' :: body))) ∨
      arrayParts? value = none ∧
        ((bytes text)[byteLength front]? ≠ some '['.toUInt8 ∨
          Scan.matchingBracket? text (byteLength front) = none) := by
  have pair : Scan.closerOf? '[' = some ']' := rfl
  have size : '['.utf8Size = 1 := rfl
  have bracket : isAscii '[' = true := rfl
  have opens_iff := getElem?_bytes_append_iff bracket front (trimStart value)
  rw [← whole] at opens_iff
  unfold arrayParts?
  split
  · rename_i rest trimmed
    rw [trimmed] at whole
    have matched := matchingBracket?_append pair front rest
    rw [← whole] at matched
    cases closed : enclosed? '[' ']' 0 .outside [] rest with
    | none =>
        rw [closed] at matched
        exact .inr ⟨rfl, .inr matched⟩
    | some parts =>
        have inRest : rest = parts.1 ++ ']' :: parts.2 := enclosed?_eq_some closed
        rw [closed] at matched
        refine .inl ⟨parts.1, parts.2, ?_, rfl, opens_iff.mpr ⟨rest, trimmed⟩, ?_⟩
        · rw [whole, inRest]
          simp
        · rw [matched, Option.map_some, byteLength_append, byteLength_cons, size, Nat.add_assoc]
  · rename_i other
    refine .inr ⟨rfl, .inl fun opens => ?_⟩
    obtain ⟨rest, trimmed⟩ := opens_iff.mp opens
    exact other rest trimmed

theorem byteAt_eq_ok {all : List UInt8} {offset : Nat} {b : UInt8} (there : all[offset]? = some b) :
    byteAt all offset = .ok b := by
  rw [byteAt, there]

theorem slice_body (front body behind : List Char) :
    slice (front ++ '[' :: body ++ ']' :: behind) (byteLength front + 1)
      (byteLength (front ++ '[' :: body)) = .ok body := by
  have opened : byteLength (front ++ ['[']) = byteLength front + 1 := byteLength_append _ _
  exact slice_eq_ok_iff.mpr ⟨front ++ ['['], ']' :: behind, by simp, opened, by simp⟩

theorem arrayBody?_eq_ok (text : List Char) (key : String) :
    arrayBody? text key = .ok (Scan.arrayBody? text key) := by
  rw [arrayBody?, member?_eq_ok, Fault.ok_bind, Scan.arrayBody?]
  cases found : Scan.member? text key with
  | none => rfl
  | some member =>
      obtain ⟨middle, whole, start⟩ := valueStart_eq_ok found
      simp only [Option.map_some, Option.bind_some, start, Fault.ok_bind, matchingBracket?_eq_ok]
      rcases arrayParts?_cases whole with
        ⟨body, behind, inText, parts, opens, matched⟩ | ⟨missing, unclosed⟩
      · simp only [matched, byteAt_eq_ok opens, Fault.ok_bind, if_true, parts, Option.map_some]
        rw [inText, slice_body, Fault.ok_bind]
      · rw [missing]
        cases matched : Scan.matchingBracket? text (byteLength (member.before ++ middle)) with
        | none => rfl
        | some last =>
            -- The bracket matched is a brace: it is read, and it opens no array.
            obtain ⟨opener, _, _, there, _⟩ := matchingBracket?_eq_some_iff.mp matched
            have brace : opener ≠ '['.toUInt8 := by
              rintro rfl
              rcases unclosed with other | never
              · exact other there
              · rw [matched] at never
                cases never
            simp only [byteAt_eq_ok there, Fault.ok_bind, if_neg brace]
            rfl

theorem stringArray_eq_ok (text : List Char) (key : String) :
    stringArray text key = .ok (Scan.stringArray text key) := by
  rw [stringArray, arrayBody?_eq_ok, Fault.ok_bind, Scan.stringArray]
  cases Scan.arrayBody? text key with
  | none => rfl
  | some body => exact strings_eq_ok body

theorem withoutFinalComma_cases (before : List Char) :
    (∃ kept, trimEnd before = kept ++ [','] ∧ kept ++ [','] <+: before ∧
        withoutFinalComma before = kept) ∨
      (trimEnd before).getLast? ≠ some ',' ∧ withoutFinalComma before = before := by
  have within : trimEnd before <+: before := List.rdropWhile_prefix isBlank before
  unfold withoutFinalComma
  split
  · rename_i kept trimmed
    have trimmed : trimEnd before = kept.reverse ++ [','] := by
      rw [trimEnd, trimmed, List.reverse_cons]
    exact .inl ⟨kept.reverse, trimmed, trimmed ▸ within, rfl⟩
  · rename_i other
    refine .inr ⟨fun comma => ?_, rfl⟩
    rw [trimEnd, List.getLast?_reverse] at comma
    obtain ⟨kept, trimmed⟩ := List.head?_eq_some_iff.mp comma
    exact other kept trimmed

theorem closeGap_of_no_comma {before after : List Char}
    (noComma : ∀ following, trimStart after = ',' :: following → False) :
    closeGap before after = withoutFinalComma before ++ after := by
  unfold closeGap
  split
  · rename_i following trimmed
    exact (noComma following trimmed).elim
  · rfl

theorem gap_eq_ok {before middle after : List Char} (place : MemberPlace) {last : Nat}
    (whole : text = before ++ middle ++ after) (opens : place.key = byteLength before)
    (closes : last + 1 = byteLength (before ++ middle)) :
    ∃ front removed behind, text = front ++ removed ++ behind ∧
      gap text place last = .ok (byteLength front, byteLength (front ++ removed)) ∧
      closeGap before after = front ++ behind := by
  have fromEnd : sliceFrom text (byteLength (before ++ middle)) = .ok after :=
    sliceFrom_eq_ok_iff.mpr ⟨_, whole, rfl⟩
  have toKey : slice text 0 (byteLength before) = .ok before :=
    slice_eq_ok_iff.mpr ⟨[], middle ++ after, by simp [whole], rfl, rfl⟩
  rw [gap, closes, fromEnd, Fault.ok_bind]
  split
  · -- The comma behind the array goes along, with the white space around it.
    rename_i following trimmed
    obtain ⟨blank, inText, _⟩ := exists_blank after
    obtain ⟨space, inFollowing, _⟩ := exists_blank following
    rw [trimmed] at inText
    have taken : text = before ++ (middle ++ blank ++ ',' :: space) ++ trimStart following := by
      rw [whole, inText]
      simp [← inFollowing]
    have toEnd : lengthWithout (byteLength text) (byteLength (trimStart following)) =
        .ok (byteLength (before ++ (middle ++ blank ++ ',' :: space))) := by
      rw [taken, lengthWithout_append]
    refine ⟨before, _, trimStart following, taken, by rw [toEnd, Fault.ok_bind, opens], ?_⟩
    simp only [closeGap, trimmed]
  · rename_i noneBehind
    rw [opens, toKey, Fault.ok_bind, closeGap_of_no_comma noneBehind]
    rcases withoutFinalComma_cases before with ⟨kept, comma, ⟨more, inFront⟩, less⟩ | ⟨noComma, same⟩
    · have toComma : lengthWithout (byteLength (kept ++ [','])) 1 = .ok (byteLength kept) :=
        lengthWithout_append kept [',']
      refine ⟨kept, [','] ++ more ++ middle, after, ?_, ?_, by rw [less]⟩
      · rw [whole, ← inFront]
        simp
      · rw [comma, if_pos (by simp), toComma, Fault.ok_bind, ← inFront]
        simp
    · refine ⟨before, middle, after, whole, ?_, by rw [same]⟩
      rw [if_neg noComma]

theorem cutOut_eq_ok {front removed behind : List Char} (whole : text = front ++ removed ++ behind) :
    (do
      let length ← lengthWithout (byteLength (front ++ removed)) (byteLength front)
      let _ ← lengthWithout (byteLength text) length
      let kept ← slice text 0 (byteLength front)
      let rest ← sliceFrom text (byteLength (front ++ removed))
      .ok (kept ++ rest)) = (.ok (front ++ behind) : Except Fault (List Char)) := by
  have length : lengthWithout (byteLength (front ++ removed)) (byteLength front) =
      .ok (byteLength removed) := by
    rw [lengthWithout, byteLength_append, if_pos (by omega), Nat.add_sub_cancel_left]
  have room : lengthWithout (byteLength text) (byteLength removed) =
      .ok (byteLength front + byteLength behind) := by
    rw [lengthWithout, whole, byteLength_append, byteLength_append, if_pos (by omega),
      Nat.add_right_comm, Nat.add_sub_cancel]
  have kept : slice text 0 (byteLength front) = .ok front :=
    slice_eq_ok_iff.mpr ⟨[], removed ++ behind, by simp [whole], rfl, rfl⟩
  have rest : sliceFrom text (byteLength (front ++ removed)) = .ok behind :=
    sliceFrom_eq_ok_iff.mpr ⟨_, whole, rfl⟩
  simp only [length, room, kept, rest, Fault.ok_bind]

theorem withoutArray_parts (text : List Char) (key : String) :
    ∃ front removed behind, text = front ++ removed ++ behind ∧
      withoutArray text key = .ok (front ++ behind) ∧
      Scan.withoutArray text key = front ++ behind := by
  have unchanged : ∃ front removed behind, text = front ++ removed ++ behind ∧
      .ok text = (Except.ok (front ++ behind) : Except Fault (List Char)) ∧
      text = front ++ behind := ⟨text, [], [], by simp, by simp, by simp⟩
  rw [withoutArray, member?_eq_ok, Fault.ok_bind, Scan.withoutArray]
  cases found : Scan.member? text key with
  | none => exact unchanged
  | some member =>
      obtain ⟨middle, whole, start⟩ := valueStart_eq_ok found
      simp only [Option.map_some, start, Fault.ok_bind, matchingBracket?_eq_ok]
      rcases arrayParts?_cases whole with
        ⟨body, after, inText, parts, opens, matched⟩ | ⟨missing, unclosed⟩
      · have size : ']'.utf8Size = 1 := rfl
        have closes : byteLength (member.before ++ middle ++ '[' :: body) + 1 =
            byteLength (member.before ++ (middle ++ '[' :: body ++ [']'])) := by
          simp only [byteLength_append, byteLength_cons, byteLength_nil, size, Nat.add_assoc]
        have around : text = member.before ++ (middle ++ '[' :: body ++ [']']) ++ after := by
          simp [inText]
        obtain ⟨front, removed, behind, inParts, ends, less⟩ :=
          gap_eq_ok (memberPlace text member) around rfl closes
        refine ⟨front, removed, behind, inParts, ?_, by rw [parts]; exact less⟩
        rw [if_neg (by rw [opens]; simp), matched]
        simp only [ends, Fault.ok_bind]
        exact cutOut_eq_ok inParts
      · rw [missing]
        rcases unclosed with noBracket | never
        · rw [if_pos noBracket]
          exact unchanged
        · rw [never]
          split
          · exact unchanged
          · exact unchanged

theorem withoutArray_eq_ok (text : List Char) (key : String) :
    withoutArray text key = .ok (Scan.withoutArray text key) := by
  obtain ⟨front, removed, behind, _, offsets, characters⟩ := withoutArray_parts text key
  rw [offsets, characters]

end Offset

end FieldMenu.Scan
