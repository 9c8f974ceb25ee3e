import FieldMenu.Proofs.Scan.First
import FieldMenu.Proofs.Scan.Offset

namespace FieldMenu.Scan

open Text

namespace Offset

theorem find?_append_of_not_mem {mark : UInt8} (part : List UInt8) {front : List UInt8}
    (absent : mark ∉ front) (rest : List UInt8) :
    find? (mark :: part) (front ++ rest) = (find? (mark :: part) rest).map (· + front.length) := by
  induction front with
  | nil => simp
  | cons b front ih =>
      rw [List.mem_cons, not_or] at absent
      have noPrefix : (mark :: part).isPrefixOf (b :: (front ++ rest)) = false := by
        simp [List.isPrefixOf, absent.1]
      rw [List.cons_append, find?, noPrefix, ih absent.2, Option.map_map]
      simp [Function.comp_def, Nat.add_assoc]

/-- A part that begins with a mark of ASCII is found where a character begins. -/
theorem find?_bytes_cons {mark : Char} (ascii : isAscii mark = true) (part : List Char) (c : Char)
    (text : List Char) :
    find? (bytes (mark :: part)) (bytes (c :: text)) =
      if mark :: part <+: c :: text then some 0
      else (find? (bytes (mark :: part)) (bytes text)).map (· + c.utf8Size) := by
  have prefix_iff : (bytes (mark :: part)).isPrefixOf (bytes (c :: text)) = true ↔
      mark :: part <+: c :: text := by
    rw [List.isPrefixOf_iff_prefix]
    refine ⟨prefix_of_prefix_bytes, ?_⟩
    rintro ⟨more, whole⟩
    exact ⟨bytes more, by rw [← whole, bytes_append]⟩
  have marked : bytes (mark :: part) = mark.toUInt8 :: bytes part := by
    rw [bytes_cons, utf8EncodeChar_of_isAscii ascii, List.singleton_append]
  obtain ⟨b, tail, coded⟩ := List.exists_cons_of_ne_nil (utf8EncodeChar_ne_nil c)
  have length : tail.length + 1 = c.utf8Size := by
    rw [← String.length_utf8EncodeChar, coded, List.length_cons]
  have absent : mark.toUInt8 ∉ tail := by
    intro member
    obtain ⟨offset, there⟩ := List.getElem?_of_mem member
    have later : (String.utf8EncodeChar c)[offset + 1]? = some mark.toUInt8 := by
      rw [coded, List.getElem?_cons_succ, there]
    exact absurd ((getElem?_utf8EncodeChar_eq_some_iff ascii).mp later).2 (Nat.succ_ne_zero offset)
  have behind := find?_append_of_not_mem (bytes part) absent (bytes text)
  rw [← marked] at behind
  rw [bytes_cons c, coded, List.cons_append] at prefix_iff ⊢
  rw [find?, behind, Option.map_map]
  simp only [prefix_iff, Function.comp_def, Nat.add_assoc, length]

section

variable {key : String}

theorem needle_eq : needle key = asciiLowered (quotedKey key) := by
  simp [needle, quotedKey, asciiLowered]

theorem byteLength_of_spelled {spelled : List Char}
    (same : asciiLowered spelled = asciiLowered (quotedKey key)) :
    byteLength spelled = byteLength (needle key) := by
  rw [needle_eq, ← same, byteLength_asciiLowered]

theorem prefix_asciiLowered_iff {lead text : List Char} :
    asciiLowered lead <+: asciiLowered text ↔ (afterLead? lead text).isSome = true := by
  rw [Option.isSome_iff_exists]
  constructor
  · rintro ⟨more, whole⟩
    obtain ⟨spelled, rest, rfl, same, _⟩ := List.map_eq_append_iff.mp whole.symm
    exact ⟨rest, afterLead?_of_sameLetters same rest⟩
  · rintro ⟨rest, fits⟩
    obtain ⟨spelled, rfl, same⟩ := afterLead?_eq_some fits
    exact ⟨asciiLowered rest, by rw [asciiLowered, ← same, asciiLowered_append]; rfl⟩

theorem find?_needle_cons (c : Char) (text : List Char) :
    find? (bytes (needle key)) (bytes (asciiLowered (c :: text))) =
      if (afterLead? (quotedKey key) (c :: text)).isSome then some 0
      else (find? (bytes (needle key)) (bytes (asciiLowered text))).map (· + c.utf8Size) := by
  have quote : isAscii '"' = true := rfl
  have first := find?_bytes_cons quote (asciiLowered key.toList ++ ['"']) c.toLower
    (asciiLowered text)
  rw [← needle, ← asciiLowered_cons, utf8Size_toLower] at first
  rw [first]
  simp only [needle_eq, prefix_asciiLowered_iff]

theorem memberFrom?_of_find?_eq_none {text : List Char}
    (missing : find? (bytes (needle key)) (bytes (asciiLowered text)) = none)
    (before : List Char) : Scan.memberFrom? (quotedKey key) 0 before text = none := by
  induction text generalizing before with
  | nil => rfl
  | cons c text ih =>
      rw [find?_needle_cons] at missing
      split at missing
      · cases missing
      · rename_i noKey
        have fits := Option.not_isSome_iff_eq_none.mp noKey
        simp only [Scan.memberFrom?, fits, ih (Option.map_eq_none_iff.mp missing)]

theorem exists_of_find?_eq_some {text : List Char} {found : Nat}
    (there : find? (bytes (needle key)) (bytes (asciiLowered text)) = some found) :
    ∃ passed spelled behind, text = passed ++ (spelled ++ behind) ∧ byteLength passed = found ∧
      asciiLowered spelled = asciiLowered (quotedKey key) ∧
      ∀ before, Scan.memberFrom? (quotedKey key) 0 before text =
        Scan.memberFrom? (quotedKey key) 0 (passed.reverse ++ before) (spelled ++ behind) := by
  induction text generalizing found with
  | nil => cases there
  | cons c text ih =>
      rw [find?_needle_cons] at there
      split at there
      · rename_i here
        cases there
        obtain ⟨behind, fits⟩ := Option.isSome_iff_exists.mp here
        obtain ⟨spelled, whole, same⟩ := afterLead?_eq_some fits
        exact ⟨[], spelled, behind, whole, rfl, same, fun before => by rw [← whole]; rfl⟩
      · rename_i noKey
        have fits := Option.not_isSome_iff_eq_none.mp noKey
        obtain ⟨earlier, inRest, rfl⟩ := Option.map_eq_some_iff.mp there
        obtain ⟨passed, spelled, behind, rfl, rfl, same, comes⟩ := ih inRest
        refine ⟨c :: passed, spelled, behind, rfl, ?_, same, fun before => ?_⟩
        · rw [byteLength_cons, Nat.add_comm]
        · rw [Scan.memberFrom?]
          simp only [fits, comes, List.reverse_cons, List.append_assoc, List.singleton_append]

theorem length_of_spelled {spelled : List Char}
    (same : asciiLowered spelled = asciiLowered (quotedKey key)) :
    spelled.length = (quotedKey key).length := by
  simpa [asciiLowered] using congrArg List.length same

theorem memberFrom?_spelled {spelled : List Char}
    (same : asciiLowered spelled = asciiLowered (quotedKey key)) (behind before : List Char) :
    Scan.memberFrom? (quotedKey key) 0 before (spelled ++ behind) =
      match afterColon? behind with
      | some value => some { before := before.reverse, value := value }
      | none => Scan.memberFrom? (quotedKey key) 0 (spelled.reverse ++ before) behind := by
  have fits := afterLead?_of_sameLetters same behind
  cases spelled with
  | nil => cases same
  | cons c spelled =>
      have length : spelled.length = (quotedKey key).length - 1 := by
        rw [← length_of_spelled same, List.length_cons, Nat.add_sub_cancel]
      have skipped := memberFrom?_skip (quotedKey key) spelled (c :: before) behind
      rw [List.cons_append] at fits ⊢
      cases colon : afterColon? behind with
      | none =>
          simp only [Scan.memberFrom?, fits, colon, ← length, skipped, List.reverse_cons,
            List.append_assoc, List.singleton_append]
      | some value => simp only [Scan.memberFrom?, fits, colon]

def memberPlace (text : List Char) (member : Member) : MemberPlace where
  key := byteLength member.before
  value := byteLength text - byteLength member.value

theorem memberPlace_of_colon (before front blank value : List Char) :
    memberPlace (front ++ (blank ++ ':' :: value)) { before := before, value := value } =
      { key := byteLength before, value := byteLength front + byteLength blank + 1 } := by
  have size : ':'.utf8Size = 1 := rfl
  simp only [memberPlace, MemberPlace.mk.injEq, byteLength_append, byteLength_cons, size, true_and]
  omega

theorem exists_blank (text : List Char) : ∃ blank, text = blank ++ trimStart text ∧
    lengthWithout (byteLength text) (byteLength (trimStart text)) = .ok (byteLength blank) := by
  obtain ⟨blank, whole⟩ := trimStart_suffix text
  refine ⟨blank, whole.symm, ?_⟩
  have length := lengthWithout_append blank (trimStart text)
  rwa [whole] at length

theorem afterColon?_cases (text : List Char) :
    (∃ value, trimStart text = ':' :: value ∧ afterColon? text = some value) ∨
      (trimStart text).head? ≠ some ':' ∧ afterColon? text = none := by
  unfold afterColon?
  split
  · rename_i value trimmed
    exact .inl ⟨value, trimmed, rfl⟩
  · rename_i other
    refine .inr ⟨fun colon => ?_, rfl⟩
    obtain ⟨value, trimmed⟩ := List.head?_eq_some_iff.mp colon
    exact other value trimmed

theorem memberFrom?_eq_ok (front rest : List Char) :
    memberFrom? (front ++ rest) (asciiLowered (front ++ rest)) key (byteLength front) =
      .ok ((Scan.memberFrom? (quotedKey key) 0 front.reverse rest).map
        (memberPlace (front ++ rest))) := by
  have ahead : sliceFrom (asciiLowered (front ++ rest)) (byteLength front) =
      .ok (asciiLowered rest) := by
    rw [sliceFrom, suffixAt?_asciiLowered]
  rw [memberFrom?_eq, ahead, Fault.ok_bind]
  cases there : find? (bytes (needle key)) (bytes (asciiLowered rest)) with
  | none => simp only [memberFrom?_of_find?_eq_none there, Option.map_none]
  | some found =>
      obtain ⟨passed, spelled, behind, rfl, rfl, same, comes⟩ := exists_of_find?_eq_some there
      have whole : front ++ (passed ++ (spelled ++ behind)) =
          (front ++ (passed ++ spelled)) ++ behind := by simp
      have length : byteLength front + byteLength passed + byteLength (needle key) =
          byteLength (front ++ (passed ++ spelled)) := by
        simp only [byteLength_append, byteLength_of_spelled same, Nat.add_assoc]
      have cut : sliceFrom (front ++ (passed ++ (spelled ++ behind)))
          (byteLength front + byteLength passed + byteLength (needle key)) = .ok behind := by
        rw [whole, length, sliceFrom_append]
      simp only [cut, comes, memberFrom?_spelled same, Fault.ok_bind]
      rcases afterColon?_cases behind with ⟨value, trimmed, colon⟩ | ⟨noColon, missing⟩
      · obtain ⟨blank, split, gap⟩ := exists_blank behind
        rw [trimmed] at split
        have place : memberPlace (front ++ (passed ++ (spelled ++ behind)))
            { before := (passed.reverse ++ front.reverse).reverse, value := value } =
            { key := byteLength front + byteLength passed
              value := byteLength front + byteLength passed + byteLength (needle key) +
                byteLength blank + 1 } := by
          rw [whole, split, memberPlace_of_colon, length]
          simp
        rw [if_pos (by rw [trimmed]; rfl), gap]
        simp only [Fault.ok_bind, colon, Option.map_some, place]
      · have shorter : behind.length < (passed ++ (spelled ++ behind)).length := by
          have filled := length_of_spelled same
          simp only [List.length_append, filled, quotedKey, List.length_cons]
          omega
        rw [if_neg noColon, length, whole, memberFrom?_eq_ok (front ++ (passed ++ spelled)) behind]
        simp [missing]
termination_by rest.length

theorem member?_eq_ok (text : List Char) (key : String) :
    member? text key = .ok ((Scan.member? text key).map (memberPlace text)) :=
  memberFrom?_eq_ok [] text

theorem sliceFrom_of_suffix {text behind : List Char} (within : behind <:+ text) :
    sliceFrom text (byteLength text - byteLength behind) = .ok behind := by
  obtain ⟨front, rfl⟩ := within
  rw [byteLength_append, Nat.add_sub_cancel, sliceFrom_append]

theorem value_suffix_of_member? {text : List Char} {member : Member}
    (found : Scan.member? text key = some member) : member.value <:+ text := by
  obtain ⟨middle, whole⟩ := memberFrom?_eq_some found
  exact ⟨member.before ++ middle, whole.symm⟩

theorem valueText?_eq_ok (text : List Char) (key : String) :
    valueText? text key = .ok (Scan.valueText? text key) := by
  rw [valueText?, member?_eq_ok, Scan.valueText?]
  cases found : Scan.member? text key with
  | none => rfl
  | some member =>
      simp only [Option.map_some, Fault.ok_bind, memberPlace,
        sliceFrom_of_suffix (value_suffix_of_member? found)]

end

end Offset

end FieldMenu.Scan
