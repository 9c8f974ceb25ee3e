import FieldMenu.Text.Lowercase

/-! The lowercase form of a part of a text may hang on what stands around the part. -/

namespace FieldMenu.Text

/-- The next character that is not case-ignorable is a cased one; what comes behind `text` has one
next if `behind` says so. -/
def casedAhead (behind : Bool) : List Char → Bool
  | [] => behind
  | c :: rest => if isCaseIgnorable c then casedAhead behind rest else isCased c

theorem casedAhead_append (behind : Bool) (first second : List Char) :
    casedAhead behind (first ++ second) = casedAhead (casedAhead behind second) first := by
  induction first with
  | nil => rfl
  | cons c first ih => rw [List.cons_append, casedAhead, casedAhead, ih]

theorem casedAhead_of_nothing {text : List Char} (cased : casedAhead false text = true)
    (behind : Bool) : casedAhead behind text = true := by
  induction text with
  | nil => cases cased
  | cons c rest ih =>
      rw [casedAhead] at cased ⊢
      split at cased
      · rename_i ignorable
        rw [if_pos ignorable]
        exact ih cased
      · rename_i other
        rwa [if_neg other]

theorem casedFollows_eq (text : List Char) : casedFollows text = casedAhead false text := by
  induction text with
  | nil => rfl
  | cons c rest ih =>
      cases ignorable : isCaseIgnorable c with
      | true =>
          rw [casedAhead, if_pos ignorable, ← ih, casedFollows, casedFollows,
            List.dropWhile_cons_of_pos ignorable]
      | false => simp only [casedAhead, casedFollows, List.dropWhile_cons, ignorable,
          Bool.false_eq_true, if_false]

/-- A capital sigma ends a word with `before` in front of it and `behind` after it: the nearest
character in front that is not case-ignorable is a cased one, and the nearest one after it is
not. -/
def endsWord (before behind : List Char) : Bool :=
  casedFollows before.reverse && !casedFollows behind

/-- The same within a longer text, of which `front` and `back` say what is nearest around. -/
def endsWithin (front back : Bool) (before behind : List Char) : Bool :=
  casedAhead front before.reverse && !casedAhead back behind

theorem endsWithin_of_casedBehind {front : Bool} {before behind : List Char}
    (ends : endsWithin front true before behind = true) :
    endsWithin front false before behind = true := by
  rw [endsWithin, Bool.and_eq_true, Bool.not_eq_true'] at ends ⊢
  refine ⟨ends.1, Bool.eq_false_iff.mpr fun cased => ?_⟩
  rw [casedAhead_of_nothing cased] at ends
  cases ends.2

theorem endsWithin_of_nothingBefore {back : Bool} {before behind : List Char}
    (ends : endsWithin false back before behind = true) :
    endsWithin true back before behind = true := by
  rw [endsWithin, Bool.and_eq_true] at ends ⊢
  exact ⟨casedAhead_of_nothing ends.1 true, ends.2⟩

theorem endsWord_eq (before behind : List Char) :
    endsWord before behind = endsWithin false false before behind := by
  rw [endsWord, endsWithin, casedFollows_eq, casedFollows_eq]

theorem endsWord_append (front before behind back : List Char) :
    endsWord (front ++ before) (behind ++ back) =
      endsWithin (casedFollows front.reverse) (casedFollows back) before behind := by
  rw [endsWord_eq, endsWithin, List.reverse_append, casedAhead_append, casedAhead_append,
    ← casedFollows_eq, ← casedFollows_eq, endsWithin]

theorem endsWithin_cons (front back : Bool) (c : Char) (before behind : List Char) :
    endsWithin front back (c :: before) behind =
      endsWithin (casedAhead front [c]) back before behind := by
  rw [endsWithin, List.reverse_cons, casedAhead_append, endsWithin]

def sigmaForm (ends : Bool) : Char :=
  if ends then 'ς' else 'σ'

theorem sigmaForm_inj {ends other : Bool} : sigmaForm ends = sigmaForm other ↔ ends = other := by
  cases ends <;> cases other <;> decide

/-- Lowercases `text` within a longer one, where `front` and `back` say whether the nearest
characters around it that are not case-ignorable are cased ones. -/
def lowercaseWithin (front back : Bool) : List Char → List Char
  | [] => []
  | c :: rest =>
      (if c = 'Σ' then [sigmaForm (endsWithin front back [] rest)] else lowerChar c) ++
        lowercaseWithin (casedAhead front [c]) back rest

theorem lowercaseAfter_eq (before : Bool) (text : List Char) :
    lowercaseAfter before text = lowercaseWithin before false text := by
  induction text generalizing before with
  | nil => rfl
  | cons c rest ih =>
      rw [lowercaseAfter, lowercaseWithin, ih, casedFollows_eq]
      rfl

theorem lowercaseWithin_append (front back : Bool) (first second : List Char) :
    lowercaseWithin front back (first ++ second) =
      lowercaseWithin front (casedAhead back second) first ++
        lowercaseWithin (casedAhead front first.reverse) back second := by
  induction first generalizing front with
  | nil => rfl
  | cons c first ih =>
      rw [List.cons_append, lowercaseWithin, lowercaseWithin, ih, endsWithin, endsWithin,
        casedAhead_append, List.reverse_cons, casedAhead_append, List.append_assoc]

theorem forall_place_cons_iff {c d : Char} {rest : List Char}
    {holds : List Char → List Char → Prop} :
    (∀ before behind, c :: rest = before ++ d :: behind → holds before behind) ↔
      (c = d → holds [] rest) ∧
        ∀ before behind, rest = before ++ d :: behind → holds (c :: before) behind := by
  constructor
  · intro all
    refine ⟨fun same => all [] rest (by rw [same, List.nil_append]), fun before behind split => ?_⟩
    exact all (c :: before) behind (by rw [split, List.cons_append])
  · rintro ⟨here, later⟩ before behind split
    cases before with
    | nil =>
        obtain ⟨rfl, rfl⟩ := List.cons.inj split
        exact here rfl
    | cons first before =>
        obtain ⟨rfl, rfl⟩ := List.cons.inj split
        exact later before behind rfl

/-- A text has the same lowercase form in two places where all its sigmas do. -/
theorem lowercaseWithin_eq_iff {front back front' back' : Bool} {text : List Char} :
    lowercaseWithin front back text = lowercaseWithin front' back' text ↔
      ∀ before behind, text = before ++ 'Σ' :: behind →
        endsWithin front back before behind = endsWithin front' back' before behind := by
  induction text generalizing front front' with
  | nil => exact iff_of_true rfl fun before behind split => by simp at split
  | cons c rest ih =>
      rw [forall_place_cons_iff, lowercaseWithin, lowercaseWithin]
      simp only [endsWithin_cons]
      by_cases sigma : c = 'Σ'
      · rw [if_pos sigma, if_pos sigma, List.singleton_append, List.singleton_append,
          List.cons.injEq, sigmaForm_inj, ih]
        exact and_congr_left fun _ => ⟨fun same _ => same, fun same => same sigma⟩
      · rw [if_neg sigma, if_neg sigma, List.append_cancel_left_eq, ih]
        exact ⟨fun same => ⟨fun is => absurd is sigma, same⟩, fun same => same.2⟩

/-- One text has fewer final sigmas than the other, and more sigmas of the other form. -/
def FewerFinal (text other : List Char) : Prop :=
  text.count 'ς' < other.count 'ς' ∧ other.count 'σ' < text.count 'σ'

section

variable {text other : List Char} (tail : text = other ∨ FewerFinal text other)

include tail

theorem eq_or_fewerFinal_append (head : List Char) :
    head ++ text = head ++ other ∨ FewerFinal (head ++ text) (head ++ other) := by
  simpa only [FewerFinal, List.count_append, List.append_cancel_left_eq, Nat.add_lt_add_iff_left]
    using tail

theorem fewerFinal_cons : FewerFinal ('σ' :: text) ('ς' :: other) := by
  have final : text.count 'ς' ≤ other.count 'ς' ∧ other.count 'σ' ≤ text.count 'σ' := by
    rcases tail with rfl | fewer
    · exact ⟨Nat.le_refl _, Nat.le_refl _⟩
    · exact ⟨Nat.le_of_lt fewer.1, Nat.le_of_lt fewer.2⟩
  obtain ⟨fewer, more⟩ := final
  refine ⟨?_, ?_⟩
  · rw [List.count_cons_self, List.count_cons_of_ne (by decide)]
    exact Nat.lt_succ_of_le fewer
  · rw [List.count_cons_self, List.count_cons_of_ne (by decide)]
    exact Nat.lt_succ_of_le more

end

/-- Where at least the same sigmas end a word in a second place, its form is the same, or more of
its sigmas are final ones. -/
theorem lowercaseWithin_eq_or_fewerFinal {front back front' back' : Bool} {text : List Char}
    (more : ∀ before behind, text = before ++ 'Σ' :: behind →
      endsWithin front back before behind = true → endsWithin front' back' before behind = true) :
    lowercaseWithin front back text = lowercaseWithin front' back' text ∨
      FewerFinal (lowercaseWithin front back text) (lowercaseWithin front' back' text) := by
  induction text generalizing front front' with
  | nil => exact .inl rfl
  | cons c rest ih =>
      rw [forall_place_cons_iff] at more
      simp only [endsWithin_cons] at more
      obtain ⟨here, later⟩ := more
      have tail := ih later
      rw [lowercaseWithin, lowercaseWithin]
      by_cases sigma : c = 'Σ'
      · rw [if_pos sigma, if_pos sigma]
        cases ends : endsWithin front back [] rest with
        | true =>
            rw [here sigma ends]
            exact eq_or_fewerFinal_append tail _
        | false =>
            cases endsThere : endsWithin front' back' [] rest with
            | true => exact .inr (fewerFinal_cons tail)
            | false => exact eq_or_fewerFinal_append tail _
      · rw [if_neg sigma, if_neg sigma]
        exact eq_or_fewerFinal_append tail _

/-- Every capital sigma of `part` ends a word in the whole text just where it does in `part`
alone. -/
def KeepsSigmas (front part back : List Char) : Prop :=
  ∀ before behind, part = before ++ 'Σ' :: behind →
    endsWord (front ++ before) (behind ++ back) = endsWord before behind

theorem keepsSigmas_of_not_mem {part : List Char} (none : 'Σ' ∉ part) (front back : List Char) :
    KeepsSigmas front part back := by
  rintro before behind rfl
  exact absurd (List.mem_append_right before List.mem_cons_self) none

theorem keepsSigmas_iff {front part back : List Char} :
    KeepsSigmas front part back ↔
      lowercaseWithin (casedFollows front.reverse) (casedFollows back) part = lowercase part := by
  rw [lowercase, lowercaseAfter_eq, lowercaseWithin_eq_iff]
  refine forall₃_congr fun before behind _ => ?_
  rw [endsWord_append, endsWord_eq]

theorem lowercase_append (front part back : List Char) :
    lowercase (front ++ part ++ back) =
      lowercaseWithin false (casedFollows (part ++ back)) front ++
        lowercaseWithin (casedFollows front.reverse) (casedFollows back) part ++
          lowercaseAfter (casedFollows (front ++ part).reverse) back := by
  simp only [lowercase, lowercaseAfter_eq, lowercaseWithin_append, casedFollows_eq,
    List.reverse_append, casedAhead_append, List.append_assoc]

theorem lowercase_infix {front part back : List Char} (keeps : KeepsSigmas front part back) :
    lowercase part <:+: lowercase (front ++ part ++ back) := by
  rw [lowercase_append, keepsSigmas_iff.mp keeps]
  exact List.infix_append _ _ _

def letterIf (cased : Bool) : List Char :=
  if cased then ['a'] else []

theorem lowercase_letterIf (front back : Bool) (part : List Char) :
    lowercase (letterIf front ++ part ++ letterIf back) =
      letterIf front ++ lowercaseWithin front back part ++ letterIf back := by
  have inFront (behind : Bool) :
      lowercaseWithin false behind (letterIf front) = letterIf front := by
    cases front <;> rfl
  have atBack (before : Bool) : lowercaseAfter before (letterIf back) = letterIf back := by
    cases back <;> rfl
  have casedFront : casedFollows (letterIf front).reverse = front := by
    cases front <;> rfl
  have casedBack : casedFollows (letterIf back) = back := by
    cases back <;> rfl
  rw [lowercase_append, inFront, atBack, casedFront, casedBack]

theorem count_letterIf {c : Char} (other : c ≠ 'a') (front back : Bool) (text : List Char) :
    (letterIf front ++ text ++ letterIf back).count c = text.count c := by
  have none (cased : Bool) : (letterIf cased).count c = 0 := by
    cases cased with
    | true => exact List.count_eq_zero.mpr (by simpa [letterIf] using other)
    | false => rfl
  rw [List.count_append, List.count_append, none, none, Nat.zero_add, Nat.add_zero]

/-- A part whose lowercase form is found between any two texts keeps all sigmas between any two. -/
theorem keepsSigmas_of_infix {part : List Char}
    (always : ∀ front back, lowercase part <:+: lowercase (front ++ part ++ back))
    (front back : List Char) : KeepsSigmas front part back := by
  have count_le {c : Char} (other : c ≠ 'a') (front back : Bool) :
      (lowercaseWithin false false part).count c ≤ (lowercaseWithin front back part).count c := by
    have least := (always (letterIf front) (letterIf back)).sublist.count_le c
    rwa [lowercase_letterIf, count_letterIf other, lowercase, lowercaseAfter_eq] at least
  -- A letter behind the part takes final sigmas away, and a letter in front takes others away.
  have behind (back : Bool) :
      lowercaseWithin false back part = lowercaseWithin false false part := by
    cases back with
    | false => rfl
    | true =>
        rcases lowercaseWithin_eq_or_fewerFinal fun before behind _ ends =>
          endsWithin_of_casedBehind ends with same | fewer
        · exact same
        · exact absurd fewer.1 (Nat.not_lt.mpr (count_le (by decide) false true))
  have around (front back : Bool) :
      lowercaseWithin front back part = lowercaseWithin false false part := by
    cases front with
    | false => exact behind back
    | true =>
        rcases lowercaseWithin_eq_or_fewerFinal fun before behind _ ends =>
          endsWithin_of_nothingBefore ends with same | fewer
        · exact same.symm.trans (behind back)
        · have other := fewer.2
          rw [behind back] at other
          exact absurd other (Nat.not_lt.mpr (count_le (by decide) true back))
  rw [keepsSigmas_iff, lowercase, lowercaseAfter_eq]
  exact around _ _

end FieldMenu.Text
