import FieldMenu.Proofs.Text.Name
import FieldMenu.Scan.Bracket

/-! No character begins with another one's bytes. -/

namespace FieldMenu.Scan

open Text

@[simp] theorem byteLength_nil : byteLength [] = 0 :=
  rfl

@[simp] theorem byteLength_cons (c : Char) (text : List Char) :
    byteLength (c :: text) = c.utf8Size + byteLength text := by
  have grown (total : Nat) : text.foldl (fun total c => total + c.utf8Size) total =
      total + byteLength text := by
    rw [byteLength]
    induction text generalizing total with
    | nil => rfl
    | cons d text ih => rw [List.foldl_cons, ih, List.foldl_cons, ih (0 + d.utf8Size)]; omega
  rw [byteLength, List.foldl_cons, grown, Nat.zero_add]

@[simp] theorem byteLength_append (left right : List Char) :
    byteLength (left ++ right) = byteLength left + byteLength right := by
  induction left with
  | nil => simp
  | cons c left ih => simp [ih, Nat.add_assoc]

@[simp] theorem byteLength_reverse (text : List Char) :
    byteLength text.reverse = byteLength text := by
  induction text with
  | nil => rfl
  | cons c text ih => simp [ih, Nat.add_comm]

theorem byteLength_pos {text : List Char} (filled : text ≠ []) : 0 < byteLength text := by
  cases text with
  | nil => exact absurd rfl filled
  | cons c text =>
      rw [byteLength_cons]
      have positive := c.utf8Size_pos
      omega

theorem suffixAt?_cons (offset : Nat) (c : Char) (text : List Char) :
    suffixAt? offset (c :: text) =
      if offset = 0 then some (c :: text)
      else if offset < c.utf8Size then none else suffixAt? (offset - c.utf8Size) text := by
  cases offset with
  | zero => rfl
  | succ offset => rw [suffixAt?, if_neg (Nat.succ_ne_zero offset)]

theorem suffixAt?_append (front text : List Char) :
    suffixAt? (byteLength front) (front ++ text) = some text := by
  induction front with
  | nil => cases text <;> rfl
  | cons c front ih =>
      have positive := c.utf8Size_pos
      rw [byteLength_cons, List.cons_append, suffixAt?_cons, if_neg (by omega), if_neg (by omega),
        Nat.add_sub_cancel_left, ih]

theorem suffixAt?_eq_some_iff {offset : Nat} {text behind : List Char} :
    suffixAt? offset text = some behind ↔
      ∃ front, text = front ++ behind ∧ byteLength front = offset := by
  constructor
  · intro found
    induction text generalizing offset with
    | nil =>
        cases offset with
        | zero =>
            cases found
            exact ⟨[], rfl, rfl⟩
        | succ offset => cases found
    | cons c text ih =>
        rw [suffixAt?_cons] at found
        split at found
        · cases found
          exact ⟨[], rfl, (‹offset = 0›).symm⟩
        · split at found
          · cases found
          · obtain ⟨front, rfl, length⟩ := ih found
            refine ⟨c :: front, rfl, ?_⟩
            rw [byteLength_cons]
            omega
  · rintro ⟨front, rfl, rfl⟩
    exact suffixAt?_append front behind

def bytes (text : List Char) : List UInt8 :=
  text.flatMap String.utf8EncodeChar

@[simp] theorem bytes_nil : bytes [] = [] :=
  rfl

@[simp] theorem bytes_cons (c : Char) (text : List Char) :
    bytes (c :: text) = String.utf8EncodeChar c ++ bytes text :=
  rfl

@[simp] theorem bytes_append (left right : List Char) :
    bytes (left ++ right) = bytes left ++ bytes right :=
  List.flatMap_append

@[simp] theorem length_bytes (text : List Char) : (bytes text).length = byteLength text := by
  induction text with
  | nil => rfl
  | cons c text ih => rw [bytes_cons, List.length_append, String.length_utf8EncodeChar, ih,
      byteLength_cons]

theorem take_bytes_append (front behind : List Char) :
    (bytes (front ++ behind)).take (byteLength front) = bytes front := by
  rw [bytes_append, ← length_bytes, List.take_left]

theorem utf8EncodeChar_ne_nil (c : Char) : String.utf8EncodeChar c ≠ [] := by
  intro empty
  have length := String.length_utf8EncodeChar c
  rw [empty, List.length_nil] at length
  exact Nat.lt_irrefl 0 (length ▸ c.utf8Size_pos)

def isAscii (c : Char) : Bool :=
  c.toNat < 128

theorem utf8Size_of_isAscii {c : Char} (ascii : isAscii c = true) : c.utf8Size = 1 := by
  rw [Char.utf8Size_eq_one_iff, UInt32.le_iff_toNat_le]
  exact Nat.le_of_lt_succ (of_decide_eq_true ascii)

theorem utf8EncodeChar_of_isAscii {c : Char} (ascii : isAscii c = true) :
    String.utf8EncodeChar c = [c.toUInt8] :=
  String.utf8EncodeChar_eq_singleton (utf8Size_of_isAscii ascii)

theorem toNat_toUInt8 {c : Char} (ascii : isAscii c = true) : c.toUInt8.toNat = c.toNat := by
  have small : c.toNat < 128 := of_decide_eq_true ascii
  have low : c.toUInt8.toNat = c.toNat % 256 := UInt32.toNat_toUInt8 c.val
  omega

theorem le_of_mem_utf8EncodeChar {c : Char} (high : isAscii c = false) :
    ∀ b ∈ String.utf8EncodeChar c, 128 ≤ b.toNat := by
  have large : 128 ≤ c.val.toNat := Nat.le_of_not_lt (of_decide_eq_false high)
  intro b member
  simp only [String.utf8EncodeChar] at member
  split at member
  · omega
  · split at member
    · simp at member
      rcases member with rfl | rfl <;> simp <;> omega
    · split at member <;> simp at member <;> rcases member with rfl | rfl | rfl | rfl <;>
        simp <;> omega

theorem ne_toUInt8_of_high {b : UInt8} (high : 128 ≤ b.toNat) (mark : Char)
    (ascii : isAscii mark = true) : b ≠ mark.toUInt8 := by
  rintro rfl
  rw [toNat_toUInt8 ascii] at high
  exact absurd (of_decide_eq_true ascii) (Nat.not_lt.mpr high)

theorem ne_of_not_isAscii {c : Char} (high : isAscii c = false) (mark : Char)
    (ascii : isAscii mark = true) : c ≠ mark := by
  rintro rfl
  rw [high] at ascii
  cases ascii

/-- A byte of a mark of ASCII is a byte of no other character. -/
theorem eq_of_mem_utf8EncodeChar {c mark : Char} (ascii : isAscii mark = true)
    (member : mark.toUInt8 ∈ String.utf8EncodeChar c) : c = mark := by
  have small : mark.toNat < 128 := of_decide_eq_true ascii
  cases kind : isAscii c with
  | true =>
      rw [utf8EncodeChar_of_isAscii kind, List.mem_singleton] at member
      have codes := congrArg UInt8.toNat member
      rw [toNat_toUInt8 ascii, toNat_toUInt8 kind] at codes
      exact Char.toNat_inj.mp codes.symm
  | false =>
      have large := le_of_mem_utf8EncodeChar kind _ member
      rw [toNat_toUInt8 ascii] at large
      omega

theorem toUInt8_not_mem_bytes {mark : Char} (ascii : isAscii mark = true) {text : List Char}
    (absent : mark ∉ text) : mark.toUInt8 ∉ bytes text := by
  intro member
  obtain ⟨c, there, coded⟩ := List.mem_flatMap.mp member
  rw [eq_of_mem_utf8EncodeChar ascii coded] at there
  exact absent there

theorem toUInt8_inj {c d : Char} (first : isAscii c = true) (second : isAscii d = true) :
    c.toUInt8 = d.toUInt8 ↔ c = d := by
  refine ⟨fun same => ?_, congrArg Char.toUInt8⟩
  refine eq_of_mem_utf8EncodeChar second ?_
  rw [utf8EncodeChar_of_isAscii first, same]
  exact List.mem_singleton_self _

theorem getElem?_utf8EncodeChar_eq_some_iff {c mark : Char} (ascii : isAscii mark = true)
    {offset : Nat} :
    (String.utf8EncodeChar c)[offset]? = some mark.toUInt8 ↔ c = mark ∧ offset = 0 := by
  constructor
  · intro found
    obtain rfl := eq_of_mem_utf8EncodeChar ascii (List.mem_of_getElem? found)
    rw [utf8EncodeChar_of_isAscii ascii] at found
    obtain ⟨within, _⟩ := List.getElem?_eq_some_iff.mp found
    exact ⟨rfl, Nat.lt_one_iff.mp within⟩
  · rintro ⟨rfl, rfl⟩
    rw [utf8EncodeChar_of_isAscii ascii]
    rfl

theorem getElem?_bytes_eq_some_iff {mark : Char} (ascii : isAscii mark = true) {text : List Char}
    {offset : Nat} :
    (bytes text)[offset]? = some mark.toUInt8 ↔
      ∃ rest, suffixAt? offset text = some (mark :: rest) := by
  induction text generalizing offset with
  | nil => cases offset <;> simp [suffixAt?]
  | cons c text ih =>
      rw [bytes_cons, suffixAt?_cons]
      by_cases within : offset < c.utf8Size
      · rw [List.getElem?_append_left (by rwa [String.length_utf8EncodeChar]),
          getElem?_utf8EncodeChar_eq_some_iff ascii]
        by_cases first : offset = 0
        · simp [first]
        · simp [first, within]
      · have positive := c.utf8Size_pos
        rw [List.getElem?_append_right (by rw [String.length_utf8EncodeChar]; omega),
          String.length_utf8EncodeChar, ih, if_neg (by omega), if_neg within]

theorem eq_of_utf8EncodeChar_append {c d : Char} {left right : List UInt8}
    (same : String.utf8EncodeChar c ++ left = String.utf8EncodeChar d ++ right) :
    c = d ∧ left = right := by
  have decoded (e : Char) (rest : List UInt8) :
      (String.utf8EncodeChar e ++ rest).toByteArray.utf8DecodeChar? 0 = some e := by
    rw [List.toByteArray_append]
    exact ByteArray.utf8DecodeChar?_utf8EncodeChar_append
  have equal : some c = some d := by
    rw [← decoded c left, same, decoded d right]
  cases equal
  exact ⟨rfl, List.append_cancel_left same⟩

theorem prefix_of_prefix_bytes {part text : List Char} (within : bytes part <+: bytes text) :
    part <+: text := by
  induction part generalizing text with
  | nil => exact List.nil_prefix
  | cons c part ih =>
      obtain ⟨more, whole⟩ := within
      cases text with
      | nil =>
          have length := congrArg List.length whole
          have positive := c.utf8Size_pos
          simp at length
          omega
      | cons d text =>
          rw [bytes_cons, bytes_cons, List.append_assoc] at whole
          obtain ⟨rfl, others⟩ := eq_of_utf8EncodeChar_append whole
          exact List.cons_prefix_cons.mpr ⟨rfl, ih ⟨more, others⟩⟩

theorem utf8Size_toLower (c : Char) : c.toLower.utf8Size = c.utf8Size := by
  cases upper : c.isUpper with
  | false => rw [toLower_of_not_isUpper upper]
  | true =>
      have bounds := isUpper_iff.mp upper
      have shifted := toNat_toLower_of_isUpper upper
      rw [utf8Size_of_isAscii (decide_eq_true (by omega)),
        utf8Size_of_isAscii (decide_eq_true (by omega))]

@[simp] theorem byteLength_asciiLowered (text : List Char) :
    byteLength (asciiLowered text) = byteLength text := by
  induction text with
  | nil => rfl
  | cons c text ih => rw [asciiLowered_cons, byteLength_cons, byteLength_cons, utf8Size_toLower, ih]

theorem asciiLowered_append (left right : List Char) :
    asciiLowered (left ++ right) = asciiLowered left ++ asciiLowered right :=
  List.map_append

theorem suffixAt?_asciiLowered (front text : List Char) :
    suffixAt? (byteLength front) (asciiLowered (front ++ text)) = some (asciiLowered text) := by
  rw [asciiLowered_append, ← byteLength_asciiLowered front]
  exact suffixAt?_append _ _

end FieldMenu.Scan
