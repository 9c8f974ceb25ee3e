import FieldMenu.Proofs.Scan.Balanced
import FieldMenu.Proofs.Text.Name

namespace FieldMenu.Scan

open Text

/-- A search for the key leaves the text behind without a find, whatever follows. -/
def Passes (key : String) (text : List Char) : Prop :=
  ∀ before rest, memberFrom? (quotedKey key) 0 before (text ++ rest) =
    memberFrom? (quotedKey key) 0 (text.reverse ++ before) rest

namespace Passes

variable {key : String}

theorem nil : Passes key [] :=
  fun _ _ => rfl

theorem append {left right : List Char} (first : Passes key left) (second : Passes key right) :
    Passes key (left ++ right) := by
  intro before rest
  rw [List.append_assoc, first, second, List.reverse_append, List.append_assoc]

end Passes

section

variable {key : String} {content gap : List Char} {mark : Char}

theorem afterLead?_quotedKey_of_ne {c : Char} (notQuote : c ≠ '"') (rest : List Char) :
    afterLead? (quotedKey key) (c :: rest) = none := by
  simp [quotedKey, afterLead?, quote_ne_toLower notQuote]

theorem passes_of_ne {c : Char} (notQuote : c ≠ '"') : Passes key [c] := by
  intro before rest
  simp [memberFrom?, afterLead?_quotedKey_of_ne notQuote]

theorem passes_of_no_quote {text : List Char} (noQuote : '"' ∉ text) : Passes key text := by
  induction text with
  | nil => exact .nil
  | cons c text ih =>
      rw [List.mem_cons, not_or] at noQuote
      exact (passes_of_ne (Ne.symm noQuote.1)).append (ih noQuote.2)

theorem member?_eq_none_of_passes {text : List Char} (passes : Passes key text) :
    member? text key = none := by
  have past := passes [] []
  rw [List.append_nil] at past
  rw [member?, past, memberFrom?]

/-- What stands in quotes fits a key when it is spelled like it, and then the quote closes it. -/
theorem afterLead?_name_quote {name : List Char} (plain : isPlain name = true)
    (stays : Quoting.staysInside .inside content = true) (rest : List Char) :
    afterLead? (name ++ ['"']) (content ++ '"' :: rest) =
      if asciiLowered content = asciiLowered name then some rest else none := by
  induction name generalizing content with
  | nil =>
      cases content with
      | nil => simp [afterLead?]
      | cons c content =>
          have different := quote_ne_toLower (Quoting.staysInside_inside_cons stays).1
          simp [afterLead?, different]
  | cons k name ih =>
      obtain ⟨⟨noQuote, noBackslash⟩, others⟩ := isPlain_cons.mp plain
      cases content with
      | nil =>
          have different := (quote_ne_toLower noQuote).symm
          simp [afterLead?, different]
      | cons c content =>
          by_cases same : k.toLower = c.toLower
          · -- As long as the content fits the name, there is no escape in it.
            have noEscape : c ≠ '\\' := by
              rintro rfl
              exact noBackslash (eq_of_toLower_eq_toLower same rfl)
            obtain ⟨notQuote, later⟩ := Quoting.staysInside_inside_cons stays
            have later : Quoting.staysInside .inside content = true := by
              simpa [Quoting.step, noEscape, notQuote] using later
            rw [List.cons_append, List.cons_append, afterLead?, if_pos same, ih others later]
            by_cases equal : asciiLowered content = asciiLowered name
            · simp [equal, same]
            · simp [equal]
          · simp [afterLead?, same, Ne.symm same]

theorem afterLead?_name_gap {name : List Char} (named : isName name = true)
    (blank : ∀ c ∈ gap, isBlank c = true) (marked : isMark mark = true) (rest : List Char) :
    afterLead? (name ++ ['"']) (gap ++ mark :: rest) = none := by
  have noName {c : Char} (other : isNameChar c = false) (notQuote : c ≠ '"')
      (rest : List Char) : afterLead? (name ++ ['"']) (c :: rest) = none := by
    cases name with
    | nil => simp [afterLead?, quote_ne_toLower notQuote]
    | cons k name =>
        have first : isNameChar k = true := by
          simp_all [isName]
        simp [afterLead?, toLower_ne_of_isNameChar first other]
  cases gap with
  | nil =>
      refine noName (by simp [isNameChar, marked]) ?_ rest
      rintro rfl
      exact absurd marked (by decide)
  | cons c gap =>
      have blankFirst := blank c (by simp)
      refine noName (by simp [isNameChar, blankFirst]) ?_ _
      rintro rfl
      exact absurd blankFirst (by decide)

theorem afterColon?_gap (blank : ∀ c ∈ gap, isBlank c = true) (marked : isMark mark = true)
    (rest : List Char) :
    afterColon? (gap ++ mark :: rest) = if mark = ':' then some rest else none := by
  have notBlank : isBlank mark = false := by
    have cases : ((((mark = '{' ∨ mark = '}') ∨ mark = '[') ∨ mark = ']') ∨ mark = ':') ∨
        mark = ',' := by
      simpa [isMark] using marked
    rcases cases with ((((rfl | rfl) | rfl) | rfl) | rfl) | rfl <;> rfl
  rw [afterColon?, trimStart_append_of_isBlank blank, trimStart_cons_of_not_blank _ notBlank]
  by_cases colon : mark = ':'
  · simp [colon]
  · simp [colon]

theorem not_mem_gap (blank : ∀ c ∈ gap, isBlank c = true) (marked : isMark mark = true) :
    '"' ∉ gap ++ [mark] := by
  intro member
  rcases List.mem_append.mp member with inGap | last
  · exact absurd (blank '"' inGap) (by decide)
  · rw [← List.mem_singleton.mp last] at marked
    exact absurd marked (by decide)

theorem memberFrom?_skip (quoted text before rest : List Char) :
    memberFrom? quoted text.length before (text ++ rest) =
      memberFrom? quoted 0 (text.reverse ++ before) rest := by
  induction text generalizing before with
  | nil => rfl
  | cons c text ih =>
      rw [List.length_cons, List.cons_append, memberFrom?, ih]
      simp

/-- From within a string to its end, where the string is a value: whatever quoted text the string
holds, and even where the end of the string looks like the key, no colon follows.  The closing quote
must not open what looks like the key. -/
theorem memberFrom?_value {quoting : Quoting} {rest : List Char}
    (plain : isPlain key.toList = true)
    (closing : afterLead? (key.toList ++ ['"']) (gap ++ mark :: rest) = none)
    (blank : ∀ c ∈ gap, isBlank c = true) (marked : isMark mark = true) (noColon : mark ≠ ':')
    (stays : quoting.staysInside content = true) (before : List Char) :
    memberFrom? (quotedKey key) 0 before (content ++ '"' :: (gap ++ mark :: rest)) =
      memberFrom? (quotedKey key) 0 ('"' :: content.reverse ++ before) (gap ++ mark :: rest) := by
  induction content generalizing quoting before with
  | nil => simp [memberFrom?, quotedKey, afterLead?, closing]
  | cons c content ih =>
      have notOutside := Quoting.ne_outside_of_staysInside stays
      rw [Quoting.staysInside_cons notOutside] at stays
      have goOn := ih stays (c :: before)
      by_cases quote : c = '"'
      · subst quote
        have stays : Quoting.staysInside .inside content = true := by
          cases quoting <;> simp_all [Quoting.step]
        have fits := afterLead?_name_quote plain stays (gap ++ mark :: rest)
        by_cases same : asciiLowered content = asciiLowered key.toList
        · -- The string ends in what looks like the key.  No colon follows, and the search skips it
          -- together with the quote that closes the string.
          have length : content.length = key.toList.length := by
            simpa [asciiLowered] using congrArg List.length same
          have skipped := memberFrom?_skip (quotedKey key) (content ++ ['"']) ('"' :: before)
            (gap ++ mark :: rest)
          rw [if_pos same] at fits
          simp only [quotedKey, List.cons_append, memberFrom?, afterLead?, fits, if_true,
            afterColon?_gap blank marked, noColon, if_false]
          simpa [quotedKey, length] using skipped
        · rw [if_neg same] at fits
          simpa [quotedKey, memberFrom?, afterLead?, fits] using goOn
      · simpa [memberFrom?, afterLead?_quotedKey_of_ne quote] using goOn

theorem memberFrom?_string {rest : List Char} (plain : isPlain key.toList = true)
    (closing : afterLead? (key.toList ++ ['"']) (gap ++ mark :: rest) = none)
    (blank : ∀ c ∈ gap, isBlank c = true) (marked : isMark mark = true) (noColon : mark ≠ ':')
    (stays : Quoting.staysInside .inside content = true) (before : List Char) :
    memberFrom? (quotedKey key) 0 before ('"' :: content ++ '"' :: (gap ++ mark :: rest)) =
      memberFrom? (quotedKey key) 0 (('"' :: content ++ '"' :: (gap ++ [mark])).reverse ++ before)
        rest := by
  -- Read from behind a backslash, the opening quote counts as content too.
  have opening : Quoting.staysInside .escaped ('"' :: content) = true := stays
  have whole := memberFrom?_value plain closing blank marked noColon opening before
  have behind : Passes key (gap ++ [mark]) := passes_of_no_quote (not_mem_gap blank marked)
  have past := behind ('"' :: ('"' :: content).reverse ++ before) rest
  simp only [List.append_assoc, List.cons_append, List.nil_append] at whole past ⊢
  rw [whole, past]
  simp

theorem passes_value (named : isName key.toList = true) (blank : ∀ c ∈ gap, isBlank c = true)
    (marked : isMark mark = true) (noColon : mark ≠ ':')
    (stays : Quoting.staysInside .inside content = true) :
    Passes key ('"' :: content ++ '"' :: gap ++ [mark]) := by
  intro before rest
  have past := memberFrom?_string (isPlain_of_isName named)
    (afterLead?_name_gap named blank marked rest) blank marked noColon stays before
  simpa using past

theorem staysInside_of_isPlain {name : List Char} (plain : isPlain name = true) :
    Quoting.staysInside .inside name = true := by
  induction name with
  | nil => rfl
  | cons c name ih =>
      obtain ⟨noEscape, others⟩ := isPlain_cons.mp plain
      simpa [Quoting.staysInside, Quoting.step, noEscape] using ih others

theorem memberFrom?_name {name rest : List Char} (plain : isPlain key.toList = true)
    (other : isPlain name = true) (different : asciiLowered name ≠ asciiLowered key.toList)
    (closing : afterLead? (key.toList ++ ['"']) (gap ++ ':' :: rest) = none)
    (blank : ∀ c ∈ gap, isBlank c = true) (before : List Char) :
    memberFrom? (quotedKey key) 0 before ('"' :: name ++ '"' :: (gap ++ ':' :: rest)) =
      memberFrom? (quotedKey key) 0 (('"' :: name ++ '"' :: (gap ++ [':'])).reverse ++ before)
        rest := by
  have fits := afterLead?_name_quote plain (staysInside_of_isPlain other) (gap ++ ':' :: rest)
  rw [if_neg different] at fits
  have inName : Passes key name := passes_of_no_quote (quote_not_mem_of_isPlain other)
  have inGap : Passes key (gap ++ [':']) := passes_of_no_quote (not_mem_gap blank rfl)
  have within := inName ('"' :: before) ('"' :: (gap ++ ':' :: rest))
  have behind := inGap ('"' :: (name.reverse ++ '"' :: before)) rest
  simp only [List.append_assoc, List.cons_append, List.nil_append] at fits within behind ⊢
  rw [memberFrom?]
  simp only [quotedKey, afterLead?, if_true, fits] at within behind ⊢
  rw [within, memberFrom?]
  simp only [afterLead?, if_true, closing]
  rw [behind]
  simp

theorem passes_key {name : List Char} (named : isName key.toList = true)
    (other : isName name = true) (different : asciiLowered name ≠ asciiLowered key.toList)
    (blank : ∀ c ∈ gap, isBlank c = true) :
    Passes key ('"' :: name ++ '"' :: gap ++ [':']) := by
  intro before rest
  have past := memberFrom?_name (isPlain_of_isName named) (isPlain_of_isName other) different
    (afterLead?_name_gap named blank rfl rest) blank before
  simpa using past

theorem memberFrom?_found {name : List Char} (plain : isPlain key.toList = true)
    (same : asciiLowered name = asciiLowered key.toList)
    (blank : ∀ c ∈ gap, isBlank c = true) (before rest : List Char) :
    memberFrom? (quotedKey key) 0 before ('"' :: name ++ '"' :: gap ++ ':' :: rest) =
      some { before := before.reverse, value := rest } := by
  have fits := afterLead?_name_quote plain
    (staysInside_of_isPlain (isPlain_of_sameLetters plain same)) (gap ++ ':' :: rest)
  rw [if_pos same] at fits
  simp only [List.append_assoc, List.cons_append] at fits ⊢
  rw [memberFrom?]
  simp [quotedKey, afterLead?, fits, afterColon?_gap blank (show isMark ':' = true from rfl)]

end

end FieldMenu.Scan
