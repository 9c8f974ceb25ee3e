import FieldMenu.Proofs.Scan.Passage

/-!
To a search, the closing quote of one string and the opening quote of the next look like a key's.
-/

namespace FieldMenu.Scan

open Text

theorem foldl_step_of_no_quote {text : List Char} (noQuote : '"' ∉ text) :
    text.foldl Quoting.step .outside = .outside := by
  induction text with
  | nil => rfl
  | cons c text ih =>
      rw [List.mem_cons, not_or] at noQuote
      rw [List.foldl_cons, show Quoting.step .outside c = .outside from if_neg (Ne.symm noQuote.1)]
      exact ih noQuote.2

theorem foldl_step_of_staysInside (quoting : Quoting) {content : List Char}
    (stays : quoting.staysInside content = true) :
    content.foldl Quoting.step quoting = .inside := by
  induction content generalizing quoting with
  | nil => simpa [Quoting.staysInside] using stays
  | cons c content ih =>
      rw [Quoting.staysInside_cons (Quoting.ne_outside_of_staysInside stays)] at stays
      exact ih _ stays

theorem foldl_step_string {content behind : List Char}
    (stays : Quoting.staysInside .inside content = true) (noQuote : '"' ∉ behind) :
    ('"' :: content ++ '"' :: behind).foldl Quoting.step .outside = .outside := by
  have inside : ('"' :: content).foldl Quoting.step .outside = .inside :=
    foldl_step_of_staysInside .inside stays
  have closed : Quoting.step .inside '"' = .outside := rfl
  rw [List.foldl_append, inside, List.foldl_cons, closed, foldl_step_of_no_quote noQuote]

/-- A reader in state `quoting` goes from a closing quote to an opening one over what is spelled
like the key. -/
def StandsBetweenFrom (key : String) (quoting : Quoting) (text : List Char) : Prop :=
  ∃ front gap back, text = front ++ '"' :: gap ++ '"' :: back ∧
    front.foldl Quoting.step quoting = .inside ∧ asciiLowered gap = asciiLowered key.toList

def StandsBetween (key : String) (text : List Char) : Prop :=
  StandsBetweenFrom key .outside text

section

variable {key : String}

theorem StandsBetweenFrom.cons {quoting : Quoting} {c : Char} {text : List Char}
    (stands : StandsBetweenFrom key quoting (c :: text)) :
    (quoting = .inside ∧ c = '"' ∧
        ∃ gap back, text = gap ++ '"' :: back ∧ asciiLowered gap = asciiLowered key.toList) ∨
      StandsBetweenFrom key (quoting.step c) text := by
  obtain ⟨front, gap, back, whole, inside, spelled⟩ := stands
  cases front with
  | nil =>
      obtain ⟨rfl, rfl⟩ := List.cons.inj whole
      exact .inl ⟨inside, rfl, gap, back, rfl, spelled⟩
  | cons d front =>
      obtain ⟨rfl, rfl⟩ := List.cons.inj whole
      exact .inr ⟨front, gap, back, rfl, inside, spelled⟩

theorem StandsBetween.behind {text rest : List Char}
    (closed : text.foldl Quoting.step .outside = .outside) (stands : StandsBetween key rest) :
    StandsBetween key (text ++ rest) := by
  obtain ⟨front, gap, back, rfl, inside, spelled⟩ := stands
  refine ⟨text ++ front, gap, back, by simp, ?_, spelled⟩
  rw [List.foldl_append, closed, inside]

/-- Where the key does not stand between strings, a closing quote does not open an occurrence of
it. -/
theorem afterLead?_of_not_between {front : List Char} (behind : List Char)
    (plain : isPlain key.toList = true) (inside : front.foldl Quoting.step .outside = .inside)
    (apart : ¬ StandsBetween key (front ++ '"' :: (behind ++ ['"']))) (rest : List Char) :
    afterLead? (key.toList ++ ['"']) (behind ++ '"' :: rest) = none := by
  rw [Option.eq_none_iff_forall_ne_some]
  intro tail found
  obtain ⟨taken, whole, letters⟩ := afterLead?_eq_some found
  obtain ⟨gap, last, rfl, spelled, quote⟩ :
      ∃ gap last, taken = gap ++ last ∧ gap.map Char.toLower = key.toList.map Char.toLower ∧
        last.map Char.toLower = ['"'.toLower] := by
    rw [List.map_append] at letters
    exact List.map_eq_append_iff.mp letters
  obtain ⟨d, rfl, same⟩ := List.map_eq_singleton_iff.mp quote
  obtain rfl : d = '"' := eq_of_toLower_eq_toLower same rfl
  have noQuote : '"' ∉ gap := quote_not_mem_of_isPlain (isPlain_of_sameLetters plain spelled)
  rw [List.append_assoc, List.singleton_append] at whole
  apply apart
  rcases List.append_eq_append_iff.mp whole with ⟨more, rfl, others⟩ | ⟨more, rfl, others⟩
  · cases more with
    | nil =>
        rw [List.append_nil] at spelled
        exact ⟨front, behind, [], by simp, inside, spelled⟩
    | cons c more =>
        obtain ⟨rfl, _⟩ := List.cons.inj others
        exact absurd (by simp) noQuote
  · cases more with
    | nil => exact ⟨front, gap, [], by simp, inside, spelled⟩
    | cons c more =>
        obtain ⟨rfl, _⟩ := List.cons.inj others
        exact ⟨front, gap, more ++ ['"'], by simp, inside, spelled⟩

/-- Text that ends outside strings.  A search goes over it without a find if the key does not stand
between strings up to the next opening quote. -/
structure PassesApart (key : String) (text : List Char) : Prop where
  closed : text.foldl Quoting.step .outside = .outside
  passes : ∀ before next rest, ¬ StandsBetween key (text ++ (next ++ ['"'])) →
    memberFrom? (quotedKey key) 0 before (text ++ (next ++ '"' :: rest)) =
      memberFrom? (quotedKey key) 0 (text.reverse ++ before) (next ++ '"' :: rest)

namespace PassesApart

theorem of_no_quote {text : List Char} (noQuote : '"' ∉ text) : PassesApart key text where
  closed := foldl_step_of_no_quote noQuote
  passes before next rest _ := passes_of_no_quote noQuote before (next ++ '"' :: rest)

theorem append {left right : List Char} (first : PassesApart key left)
    (second : PassesApart key right) : PassesApart key (left ++ right) where
  closed := by rw [List.foldl_append, first.closed, second.closed]
  passes before next rest apart := by
    rw [List.append_assoc] at apart
    have front := first.passes before (right ++ next) rest (by simpa using apart)
    have behind := second.passes (left.reverse ++ before) next rest
      fun stands => apart (stands.behind first.closed)
    simp only [List.append_assoc, List.reverse_append] at front behind ⊢
    rw [front, behind]

theorem string (plain : isPlain key.toList = true) {content gap : List Char} {mark : Char}
    (blank : ∀ c ∈ gap, isBlank c = true) (marked : isMark mark = true) (noColon : mark ≠ ':')
    (stays : Quoting.staysInside .inside content = true) :
    PassesApart key ('"' :: content ++ '"' :: (gap ++ [mark])) where
  closed := foldl_step_string stays (not_mem_gap blank marked)
  passes before next rest apart := by
    have inside : ('"' :: content).foldl Quoting.step .outside = .inside :=
      foldl_step_of_staysInside .inside stays
    have closing := afterLead?_of_not_between (gap ++ mark :: next) plain inside
      (by simpa using apart) rest
    rw [List.append_assoc] at closing
    have past := memberFrom?_string plain closing blank marked noColon stays before
    simpa using past

theorem name (plain : isPlain key.toList = true) {name gap : List Char}
    (other : isPlain name = true) (different : asciiLowered name ≠ asciiLowered key.toList)
    (blank : ∀ c ∈ gap, isBlank c = true) :
    PassesApart key ('"' :: name ++ '"' :: (gap ++ [':'])) where
  closed := foldl_step_string (staysInside_of_isPlain other) (not_mem_gap blank rfl)
  passes before next rest apart := by
    have inside : ('"' :: name).foldl Quoting.step .outside = .inside :=
      foldl_step_of_staysInside .inside (staysInside_of_isPlain other)
    have closing := afterLead?_of_not_between (gap ++ ':' :: next) plain inside
      (by simpa using apart) rest
    rw [List.append_assoc] at closing
    have past := memberFrom?_name plain other different closing blank before
    simpa using past

end PassesApart

structure KeepsApart (key : String) (text : List Char) : Prop where
  closed : text.foldl Quoting.step .outside = .outside
  behind : ∀ rest, StandsBetween key (text ++ rest) → StandsBetween key rest

namespace KeepsApart

theorem of_no_quote {text : List Char} (noQuote : '"' ∉ text) : KeepsApart key text where
  closed := foldl_step_of_no_quote noQuote
  behind rest stands := by
    induction text with
    | nil => exact stands
    | cons c text ih =>
        rw [List.mem_cons, not_or] at noQuote
        rcases stands.cons with ⟨_, rfl, _⟩ | later
        · exact absurd rfl noQuote.1
        · rw [show Quoting.step .outside c = .outside from if_neg (Ne.symm noQuote.1)] at later
          exact ih noQuote.2 later

theorem append {left right : List Char} (first : KeepsApart key left)
    (second : KeepsApart key right) : KeepsApart key (left ++ right) where
  closed := by rw [List.foldl_append, first.closed, second.closed]
  behind rest stands := by
    rw [List.append_assoc] at stands
    exact second.behind rest (first.behind (right ++ rest) stands)

theorem standsBetweenFrom_of_staysInside {quoting : Quoting} {content rest : List Char}
    (stays : quoting.staysInside content = true)
    (stands : StandsBetweenFrom key quoting (content ++ rest)) :
    StandsBetweenFrom key .inside rest := by
  induction content generalizing quoting with
  | nil =>
      obtain rfl : quoting = .inside := by simpa [Quoting.staysInside] using stays
      exact stands
  | cons c content ih =>
      rcases stands.cons with ⟨rfl, rfl, _⟩ | later
      · exact absurd rfl (Quoting.staysInside_inside_cons stays).1
      · rw [Quoting.staysInside_cons (Quoting.ne_outside_of_staysInside stays)] at stays
        exact ih stays later

/-- What stands between strings reaches as far as the mark behind the first one. -/
theorem mark_mem_of_append {gap between back rest : List Char} {mark : Char}
    (noQuote : '"' ∉ gap ++ [mark]) (whole : gap ++ [mark] ++ rest = between ++ '"' :: back) :
    mark ∈ between := by
  rcases List.append_eq_append_iff.mp whole with ⟨more, rfl, _⟩ | ⟨more, same, others⟩
  · simp
  · cases more with
    | nil =>
        rw [List.append_nil] at same
        simp [← same]
    | cons c more =>
        obtain ⟨rfl, _⟩ := List.cons.inj others
        rw [same] at noQuote
        exact absurd (by simp) noQuote

theorem ne_of_mark (noMark : ∀ c ∈ key.toList, isMark c = false) {between : List Char} {mark : Char}
    (marked : isMark mark = true) (member : mark ∈ between) :
    asciiLowered between ≠ asciiLowered key.toList := by
  intro same
  have lowered : mark.toLower ∈ asciiLowered key.toList := by
    rw [← same]
    exact List.mem_map_of_mem member
  obtain ⟨c, inKey, equal⟩ := List.mem_map.mp lowered
  have noLetter : mark.isAlpha = false :=
    isAlpha_eq_false_of_not_isNameChar (by simp [isNameChar, marked])
  rw [eq_of_toLower_eq_toLower equal noLetter] at inKey
  rw [noMark mark inKey] at marked
  cases marked

theorem quoted (noMark : ∀ c ∈ key.toList, isMark c = false) {content gap : List Char} {mark : Char}
    (blank : ∀ c ∈ gap, isBlank c = true) (marked : isMark mark = true)
    (stays : Quoting.staysInside .inside content = true) :
    KeepsApart key ('"' :: content ++ '"' :: (gap ++ [mark])) where
  closed := foldl_step_string stays (not_mem_gap blank marked)
  behind rest stands := by
    have noQuote := not_mem_gap blank marked
    have stands : StandsBetween key ('"' :: (content ++ '"' :: (gap ++ [mark] ++ rest))) := by
      simpa only [List.cons_append, List.append_assoc] using stands
    rcases stands.cons with ⟨outside, _⟩ | inside
    · cases outside
    rcases (standsBetweenFrom_of_staysInside stays inside).cons with
      ⟨_, _, between, back, whole, spelled⟩ | outside
    · exact absurd spelled (ne_of_mark noMark marked (mark_mem_of_append noQuote whole))
    · exact (of_no_quote noQuote).behind rest outside

end KeepsApart

end

end FieldMenu.Scan
