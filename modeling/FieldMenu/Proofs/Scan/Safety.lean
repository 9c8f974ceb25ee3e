import FieldMenu.Proofs.Scan.Arrays
import FieldMenu.Proofs.Scan.Objects
import FieldMenu.Proofs.Scan.Sweep

namespace FieldMenu.Scan

open Text

variable {text : List Char} {key : String}

theorem suffix_of_valueText? {value : List Char} (found : valueText? text key = some value) :
    value <:+ text := by
  obtain ⟨member, there, rfl⟩ := Option.map_eq_some_iff.mp found
  exact (trimStart_suffix member.value).trans (Offset.value_suffix_of_member? there)

theorem infix_of_arrayBody? {body : List Char} (found : arrayBody? text key = some body) :
    body <:+: text := by
  obtain ⟨member, there, closed⟩ := Option.bind_eq_some_iff.mp found
  obtain ⟨⟨inner, behind⟩, parts, rfl⟩ := Option.map_eq_some_iff.mp closed
  obtain ⟨middle, whole, _⟩ := Offset.valueStart_eq_ok there
  rcases Offset.arrayParts?_cases whole with ⟨body, after, inText, closes, _⟩ | ⟨missing, _⟩
  · rw [parts] at closes
    cases closes
    exact ⟨member.before ++ middle ++ ['['], ']' :: behind, by simp [inText]⟩
  · rw [parts] at missing
    cases missing

theorem exists_raw_of_string? {value : String} (found : string? text key = some value) :
    ∃ raw, raw <:+: text ∧ value = String.ofList (unescape raw) := by
  unfold string? at found
  split at found
  · rename_i rest there
    obtain ⟨⟨raw, behind⟩, closed, rfl⟩ := Option.map_eq_some_iff.mp found
    have inRest : rest = raw ++ '"' :: behind := quoted?_eq_some closed
    have within : raw <:+: '"' :: rest := ⟨['"'], '"' :: behind, by simp [inRest]⟩
    exact ⟨raw, within.trans (suffix_of_valueText? there).isInfix, rfl⟩
  · cases found

theorem exists_raw_of_mem_stringArray {value : String} (found : value ∈ stringArray text key) :
    ∃ raw, raw <:+: text ∧ value = String.ofList (unescape raw) := by
  cases array : arrayBody? text key with
  | none =>
      rw [stringArray, array] at found
      cases found
  | some body =>
      obtain ⟨raws, quotes⟩ := exists_quotes body
      have found : value ∈ strings body := by simpa [stringArray, array] using found
      rw [quotes.strings_eq] at found
      obtain ⟨raw, there, rfl⟩ := List.mem_map.mp found
      exact ⟨raw, (quotes.infix_of_mem raw there).trans (infix_of_arrayBody? array), rfl⟩

/-- By offsets no look-up is refused a part of the text: each offset lies in the text, between
characters, and in order, and the result is that of the look-up by characters.  A key stands in
front of its value.  What is returned is a part of the text, the content of a string one before its
escapes are taken back; and taking an array out leaves what stands on both sides of one part. -/
theorem scan_within (text : List Char) (key : String) :
    (Offset.member? text key = .ok ((member? text key).map (Offset.memberPlace text)) ∧
      Offset.valueText? text key = .ok (valueText? text key) ∧
      Offset.string? text key = .ok (string? text key) ∧
      (∀ default, Offset.flag text key default = .ok (flag text key default)) ∧
      (∀ default, Offset.integer text key default = .ok (integer text key default)) ∧
      Offset.arrayBody? text key = .ok (arrayBody? text key) ∧
      Offset.objects text = .ok (objects text) ∧
      Offset.stringArray text key = .ok (stringArray text key) ∧
      Offset.withoutArray text key = .ok (withoutArray text key)) ∧
    (∀ member, member? text key = some member →
      ∃ middle, text = member.before ++ middle ++ member.value) ∧
    (∀ value, valueText? text key = some value → value <:+ text) ∧
    (∀ body, arrayBody? text key = some body → body <:+: text) ∧
    (∀ object ∈ objects text, object <:+: text) ∧
    (∀ value, string? text key = some value ∨ value ∈ stringArray text key →
      ∃ raw, raw <:+: text ∧ value = String.ofList (unescape raw)) ∧
    ∃ front removed behind, text = front ++ removed ++ behind ∧
      withoutArray text key = front ++ behind := by
  refine ⟨⟨Offset.member?_eq_ok text key, Offset.valueText?_eq_ok text key,
    Offset.string?_eq_ok text key, Offset.flag_eq_ok text key, Offset.integer_eq_ok text key,
    Offset.arrayBody?_eq_ok text key, Offset.objects_eq_ok text, Offset.stringArray_eq_ok text key,
    Offset.withoutArray_eq_ok text key⟩, fun _ => memberFrom?_eq_some,
    fun _ => suffix_of_valueText?, fun _ => infix_of_arrayBody?, (splits_objects text).infix_of_mem, ?_, ?_⟩
  · rintro value (found | found)
    · exact exists_raw_of_string? found
    · exact exists_raw_of_mem_stringArray found
  · obtain ⟨front, removed, behind, whole, _, left⟩ := Offset.withoutArray_parts text key
    exact ⟨front, removed, behind, whole, left⟩

/-- Characters of several bytes in the key, in the white space behind it and in the array, in a text
that is cut off. -/
theorem scan_within_letters :
    let text := "\x7bé,\"É\"\u00a0:\u2003[\x7b\"b\":\"é\"\x7d,\"c\"],\"x".toList
    let body := "\x7b\"b\":\"é\"\x7d,\"c\"".toList
    (arrayBody? text "É" = some body ∧ "c" ∈ stringArray text "É") ∧
      Offset.arrayBody? text "É" = .ok (some body) ∧ body <:+: text ∧
      ∃ raw, raw <:+: text ∧ "c" = String.ofList (unescape raw) := by
  intro text body
  have found : arrayBody? text "É" = some body := by decide +kernel
  have listed : "c" ∈ stringArray text "É" := by decide +kernel
  obtain ⟨⟨_, _, _, _, _, array, _⟩, _, _, within, _, strings, _⟩ := scan_within text "É"
  rw [found] at array
  exact ⟨⟨found, listed⟩, array, within body found, strings "c" (.inr listed)⟩

end FieldMenu.Scan
