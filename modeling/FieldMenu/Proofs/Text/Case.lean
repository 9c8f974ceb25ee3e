import FieldMenu.Proofs.Text.Name
import FieldMenu.Proofs.Text.Split

namespace FieldMenu.Text

def spaceCodes : List Nat :=
  List.range' 9 5 ++ [0x20, 0x85, 0xA0, 0x1680] ++ List.range' 0x2000 11 ++
    [0x2028, 0x2029, 0x202F, 0x205F, 0x3000]

def isCaseless (c : Char) : Bool :=
  c.toNat ∈ ';'.toNat :: spaceCodes

theorem isCaseless_of_isBlank {c : Char} (blank : isBlank c = true) : isCaseless c = true := by
  simp [isBlank] at blank
  simp [isCaseless, spaceCodes, List.mem_range'_1]
  omega

/-- No mapping starts or ends at a character without case. -/
theorem caseRuns_avoid : ∀ code ∈ ';'.toNat :: spaceCodes, 0 < code ∧ ∀ run ∈ caseRuns,
    run.covers code = false ∧ run.covers (code - run.shift).toNat = false := by
  decide +kernel

theorem not_isAlpha_of_isCaseless {c : Char} (caseless : isCaseless c = true) :
    c.isAlpha = false := by
  refine Bool.eq_false_iff.mpr fun letter => ?_
  have bounds := isAlpha_iff.mp letter
  simp [isCaseless, spaceCodes, List.mem_range'_1] at caseless
  omega

theorem toLower_of_isCaseless {c : Char} (caseless : isCaseless c = true) : c.toLower = c := by
  obtain ⟨notUpper, _⟩ : c.isUpper = false ∧ c.isLower = false :=
    Bool.or_eq_false_iff.mp (not_isAlpha_of_isCaseless caseless)
  exact toLower_of_not_isUpper notUpper

theorem covers_of_isCaseless {c : Char} (caseless : isCaseless c = true) {run : CaseRun}
    (member : run ∈ caseRuns) : run.covers c.toNat = false :=
  ((caseRuns_avoid c.toNat (of_decide_eq_true caseless)).2 run member).1

theorem not_isCaseless_apply {run : CaseRun} (member : run ∈ caseRuns) {code : Nat}
    (covered : run.covers code = true) : isCaseless (run.apply code) = false := by
  refine Bool.eq_false_iff.mpr fun caseless => ?_
  obtain ⟨positive, apart⟩ := caseRuns_avoid _ (of_decide_eq_true caseless)
  have target : (run.apply code).toNat = (code + run.shift).toNat := by
    unfold CaseRun.apply Char.ofNat at positive ⊢
    by_cases valid : (code + run.shift).toNat.isValidChar
    · rw [dif_pos valid]
      rfl
    · rw [dif_neg valid] at positive
      exact absurd positive (Nat.lt_irrefl 0)
  have source : ((run.apply code).toNat - run.shift).toNat = code := by omega
  have uncovered := (apart run member).2
  rw [source, covered] at uncovered
  cases uncovered

theorem lowerChar_of_isCaseless {c : Char} (caseless : isCaseless c = true) :
    lowerChar c = [c] := by
  by_cases ascii : c.toNat < 0x80
  · rw [lowerChar, if_pos ascii, toLower_of_isCaseless caseless]
  · have other : c ≠ 'İ' := by
      rintro rfl
      exact absurd caseless (by decide)
    have uncovered : caseRuns.find? (fun run => run.covers c.toNat) = none :=
      List.find?_eq_none.mpr fun run member =>
        Bool.eq_false_iff.mp (covers_of_isCaseless caseless member)
    rw [lowerChar, if_neg ascii, if_neg other, uncovered]

theorem lowerChar_ne_nil (c : Char) : lowerChar c ≠ [] := by
  rw [lowerChar]
  split
  · exact List.cons_ne_nil _ _
  · split
    · exact List.cons_ne_nil _ _
    · split <;> exact List.cons_ne_nil _ _

theorem eq_of_mem_lowerChar {c d : Char} (member : d ∈ lowerChar c)
    (caseless : isCaseless d = true) : d = c := by
  by_cases ascii : c.toNat < 0x80
  · rw [lowerChar, if_pos ascii, List.mem_singleton] at member
    refine (eq_of_toLower_eq_toLower ?_ (not_isAlpha_of_isCaseless caseless)).symm
    rw [← member, toLower_of_isCaseless caseless]
  · by_cases dotted : c = 'İ'
    · have letters : isCaseless 'i' = false ∧ isCaseless '\u0307' = false := by decide
      rw [lowerChar, if_neg ascii, if_pos dotted, List.mem_cons, List.mem_singleton] at member
      rcases member with rfl | rfl
      · rw [letters.1] at caseless
        cases caseless
      · rw [letters.2] at caseless
        cases caseless
    · rw [lowerChar, if_neg ascii, if_neg dotted] at member
      cases found : caseRuns.find? (fun run => run.covers c.toNat) with
      | none =>
          rw [found] at member
          exact List.mem_singleton.mp member
      | some run =>
          rw [found] at member
          have covered : run.covers c.toNat = true := by simpa using List.find?_some found
          rw [List.mem_singleton.mp member,
            not_isCaseless_apply (List.mem_of_find?_eq_some found) covered] at caseless
          cases caseless

/-- Lowercase text, character by character: each has a part of its own, and a character without case
is a part by itself. -/
theorem lowercaseAfter_cons (before : Bool) (c : Char) (rest : List Char) :
    ∃ part later, lowercaseAfter before (c :: rest) = part ++ lowercaseAfter later rest ∧
      part ≠ [] ∧ (isCaseless c = true → part = [c]) ∧
      ∀ d ∈ part, isCaseless d = true → d = c := by
  have unfolded := lowercaseAfter.eq_2 before c rest
  by_cases sigma : c = 'Σ'
  · have letters : isCaseless 'Σ' = false ∧ isCaseless 'ς' = false ∧ isCaseless 'σ' = false := by
      decide
    rw [if_pos sigma] at unfolded
    refine ⟨_, _, unfolded, List.cons_ne_nil _ _, fun caseless => ?_, fun d member caseless => ?_⟩
    · rw [sigma, letters.1] at caseless
      cases caseless
    · rw [List.mem_singleton] at member
      split at member
      · rw [member, letters.2.1] at caseless
        cases caseless
      · rw [member, letters.2.2] at caseless
        cases caseless
  · rw [if_neg sigma] at unfolded
    exact ⟨_, _, unfolded, lowerChar_ne_nil c, lowerChar_of_isCaseless,
      fun d member => eq_of_mem_lowerChar member⟩

section

variable {d : Char} (caseless : isCaseless d = true)
include caseless

theorem mem_lowercaseAfter_iff (before : Bool) (text : List Char) :
    d ∈ lowercaseAfter before text ↔ d ∈ text := by
  induction text generalizing before with
  | nil => rfl
  | cons c rest ih =>
      obtain ⟨part, later, split, _, single, own⟩ := lowercaseAfter_cons before c rest
      rw [split, List.mem_append, List.mem_cons, ih later]
      refine or_congr_left ⟨fun member => own d member caseless, ?_⟩
      rintro rfl
      rw [single caseless]
      exact List.mem_singleton_self _

theorem head?_lowercaseAfter_iff (before : Bool) (text : List Char) :
    (lowercaseAfter before text).head? = some d ↔ text.head? = some d := by
  cases text with
  | nil => rfl
  | cons c rest =>
      obtain ⟨part, later, split, filled, single, own⟩ := lowercaseAfter_cons before c rest
      rw [split, List.head?_append_of_ne_nil _ filled, List.head?_cons, Option.some.injEq]
      constructor
      · exact fun first => (own d (List.mem_of_head? first) caseless).symm
      · rintro rfl
        rw [single caseless, List.head?_singleton]

theorem getLast?_lowercaseAfter_iff (before : Bool) (text : List Char) :
    (lowercaseAfter before text).getLast? = some d ↔ text.getLast? = some d := by
  induction text generalizing before with
  | nil => rfl
  | cons c rest ih =>
      obtain ⟨part, later, split, filled, single, own⟩ := lowercaseAfter_cons before c rest
      rw [split]
      cases rest with
      | nil =>
          rw [lowercaseAfter, List.append_nil, List.getLast?_singleton, Option.some.injEq]
          constructor
          · exact fun last => (own d (List.mem_of_getLast? last) caseless).symm
          · rintro rfl
            rw [single caseless, List.getLast?_singleton]
      | cons next rest =>
          obtain ⟨other, _, nextSplit, otherFilled, _⟩ := lowercaseAfter_cons later next rest
          have more : lowercaseAfter later (next :: rest) ≠ [] := by
            rw [nextSplit]
            exact List.append_ne_nil_of_left_ne_nil otherFilled _
          rw [List.getLast?_append_of_ne_nil _ more, List.getLast?_cons_cons]
          exact ih later

end

theorem lowercase_eq_nil_iff {text : List Char} : lowercase text = [] ↔ text = [] := by
  cases text with
  | nil => exact ⟨fun _ => rfl, fun _ => rfl⟩
  | cons c rest =>
      obtain ⟨part, _, split, filled, _⟩ := lowercaseAfter_cons false c rest
      rw [lowercase, split]
      simp [filled]

theorem forall_isBlank_lowercaseAfter (before : Bool) (text : List Char) :
    (∀ c ∈ lowercaseAfter before text, isBlank c = true) ↔ ∀ c ∈ text, isBlank c = true := by
  induction text generalizing before with
  | nil => rfl
  | cons c rest ih =>
      obtain ⟨part, later, split, filled, single, own⟩ := lowercaseAfter_cons before c rest
      rw [split, List.forall_mem_append, List.forall_mem_cons, ih later]
      refine and_congr_left fun _ => ⟨fun blank => ?_, fun blank => ?_⟩
      · obtain ⟨d, member⟩ := List.exists_mem_of_ne_nil part filled
        rw [← own d member (isCaseless_of_isBlank (blank d member))]
        exact blank d member
      · rw [single (isCaseless_of_isBlank blank), List.forall_mem_singleton]
        exact blank

theorem trimStart_eq_self_iff {text : List Char} :
    trimStart text = text ↔ ∀ c, text.head? = some c → isBlank c = false := by
  rw [trimStart, List.dropWhile_eq_self_iff]
  cases text with
  | nil => simp
  | cons first rest => simp

theorem trimEnd_eq_self_iff {text : List Char} :
    trimEnd text = text ↔ ∀ c, text.getLast? = some c → isBlank c = false := by
  refine List.rdropWhile_eq_self_iff.trans ?_
  cases text with
  | nil => simp
  | cons first rest => simp [List.getLast?_eq_some_getLast]

theorem trim_eq_self_iff {text : List Char} :
    trim text = text ↔ trimStart text = text ∧ trimEnd text = text := by
  constructor
  · intro same
    have shorter := (trim_prefix_trimStart text).length_le
    rw [same] at shorter
    have start : trimStart text = text :=
      (trimStart_suffix text).eq_of_length
        (Nat.le_antisymm (length_trimStart_le text) shorter)
    rw [trim, start] at same
    exact ⟨start, same⟩
  · rintro ⟨start, finish⟩
    rw [trim, start, finish]

section

variable {text other : List Char} (same : lowercase text = lowercase other) {c : Char}
  (caseless : isCaseless c = true)
include same

theorem eq_nil_iff_of_lowercase : text = [] ↔ other = [] := by
  rw [← lowercase_eq_nil_iff, ← @lowercase_eq_nil_iff other, same]

include caseless

theorem mem_iff_of_lowercase : c ∈ text ↔ c ∈ other := by
  rw [← mem_lowercaseAfter_iff caseless false text, ← mem_lowercaseAfter_iff caseless false other,
    ← lowercase, ← lowercase, same]

theorem head?_iff_of_lowercase : text.head? = some c ↔ other.head? = some c := by
  rw [← head?_lowercaseAfter_iff caseless false text,
    ← head?_lowercaseAfter_iff caseless false other, ← lowercase, ← lowercase, same]

theorem getLast?_iff_of_lowercase : text.getLast? = some c ↔ other.getLast? = some c := by
  rw [← getLast?_lowercaseAfter_iff caseless false text,
    ← getLast?_lowercaseAfter_iff caseless false other, ← lowercase, ← lowercase, same]

omit caseless

theorem trim_eq_self_of_lowercase (trimmed : trim text = text) : trim other = other := by
  obtain ⟨start, finish⟩ := trim_eq_self_iff.mp trimmed
  refine trim_eq_self_iff.mpr ⟨trimStart_eq_self_iff.mpr fun c first => ?_,
    trimEnd_eq_self_iff.mpr fun c last => ?_⟩
  · refine Bool.eq_false_iff.mpr fun blank => ?_
    have before := (head?_iff_of_lowercase same (isCaseless_of_isBlank blank)).mpr first
    rw [trimStart_eq_self_iff.mp start c before] at blank
    cases blank
  · refine Bool.eq_false_iff.mpr fun blank => ?_
    have before := (getLast?_iff_of_lowercase same (isCaseless_of_isBlank blank)).mpr last
    rw [trimEnd_eq_self_iff.mp finish c before] at blank
    cases blank

end

theorem isBlankText_iff {text : String} :
    isBlankText text = true ↔ ∀ c ∈ text.toList, isBlank c = true := by
  rw [isBlankText, List.isEmpty_iff, trim_eq_nil_iff]

theorem isBlankText_congr {text other : String} (same : lowered text = lowered other) :
    isBlankText text = isBlankText other := by
  have sameCharacters : lowercase text.toList = lowercase other.toList :=
    String.ofList_injective same
  rw [Bool.eq_iff_iff, isBlankText_iff, isBlankText_iff,
    ← forall_isBlank_lowercaseAfter false text.toList, ← lowercase, sameCharacters, lowercase,
    forall_isBlank_lowercaseAfter]

end FieldMenu.Text
