import FieldMenu.Proofs.Scan.Passage
import Mathlib.Data.List.TakeWhile

namespace FieldMenu.Scan

open Text

theorem enclosed?_append_of_some {opener closer : Char} {depth : Nat} {quoting : Quoting}
    {read text body rest : List Char}
    (closed : enclosed? opener closer depth quoting read text = some (body, rest))
    (more : List Char) :
    enclosed? opener closer depth quoting read (text ++ more) = some (body, rest ++ more) := by
  induction text generalizing depth quoting read with
  | nil => cases quoting <;> cases closed
  | cons c text ih =>
      cases quoting with
      | outside =>
          simp only [List.cons_append, enclosed?] at closed ⊢
          split at closed
          · rw [if_pos ‹_›]
            exact ih closed
          · rw [if_neg ‹_›]
            split at closed
            · rw [if_pos ‹_›]
              cases depth with
              | zero =>
                  cases closed
                  rfl
              | succ depth => exact ih closed
            · rw [if_neg ‹_›]
              exact ih closed
      | inside | escaped => exact ih closed

theorem enclosed?_of_prefix {opener closer : Char} {kept lost : List Char}
    (pair : closerOf? opener = some closer) (balanced : Balanced (kept ++ lost)) :
    enclosed? opener closer 0 .outside [] kept = none := by
  have late := balanced.enclosed?_append pair 0 [] [closer]
  have noOpener : closer ≠ opener := by
    obtain ⟨rfl, rfl⟩ | ⟨rfl, rfl⟩ := closerOf?_eq_some pair <;> decide
  rw [Option.eq_none_iff_forall_ne_some]
  rintro ⟨body, rest⟩ early
  -- Closed already, it would leave what is lost behind the closer.
  have whole := enclosed?_append_of_some early (lost ++ [closer])
  rw [← List.append_assoc, late] at whole
  simp [enclosed?, noOpener] at whole

section

variable {lead text rest more : List Char} {key : String}

theorem afterLead?_append_of_some (found : afterLead? lead text = some rest) (more : List Char) :
    afterLead? lead (text ++ more) = some (rest ++ more) := by
  induction lead generalizing text with
  | nil =>
      cases found
      rfl
  | cons l lead ih =>
      cases text with
      | nil => cases found
      | cons c text =>
          simp only [List.cons_append, afterLead?] at found ⊢
          split at found
          · rw [if_pos ‹_›]
            exact ih found
          · cases found

theorem afterLead?_append_of_none (long : lead.length ≤ text.length)
    (missing : afterLead? lead text = none) (more : List Char) :
    afterLead? lead (text ++ more) = none := by
  induction lead generalizing text with
  | nil => cases missing
  | cons l lead ih =>
      cases text with
      | nil => simp at long
      | cons c text =>
          simp only [List.cons_append, afterLead?] at missing ⊢
          split at missing
          · rw [if_pos ‹_›]
            exact ih (by simpa using long) missing
          · rw [if_neg ‹_›]

theorem trimStart_append_of_cons {c : Char} (trimmed : trimStart text = c :: rest)
    (more : List Char) : trimStart (text ++ more) = c :: rest ++ more := by
  rw [trimStart] at trimmed ⊢
  simp [List.dropWhile_append, trimmed]

theorem afterColon?_append_of_some (found : afterColon? text = some rest) (more : List Char) :
    afterColon? (text ++ more) = some (rest ++ more) := by
  rw [afterColon?] at found
  split at found
  · rename_i value trimmed
    cases found
    rw [afterColon?, trimStart_append_of_cons trimmed]
    rfl
  · cases found

/-- Where a quote follows, what stands in front of it decides whether there is a colon. -/
theorem afterColon?_append_of_none (quoted : '"' ∈ text) (missing : afterColon? text = none)
    (more : List Char) : afterColon? (text ++ more) = none := by
  cases trimmed : trimStart text with
  | nil =>
      have blank := List.dropWhile_eq_nil_iff.mp trimmed '"' quoted
      exact absurd blank (by decide)
  | cons c rest =>
      have noColon : c ≠ ':' := by
        rintro rfl
        simp [afterColon?, trimmed] at missing
      rw [afterColon?, trimStart_append_of_cons trimmed]
      simp [noColon]

theorem length_le_of_memberFrom? {quoted before text : List Char} {skip : Nat} {member : Member}
    (found : memberFrom? quoted skip before text = some member) :
    quoted.length ≤ text.length := by
  induction text generalizing skip before with
  | nil => cases skip <;> cases found
  | cons c text ih =>
      have later {skip : Nat} (found : memberFrom? quoted skip (c :: before) text = some member) :
          quoted.length ≤ (c :: text).length :=
        Nat.le_succ_of_le (ih found)
      cases skip with
      | succ skip => exact later found
      | zero =>
          simp only [memberFrom?] at found
          split at found
          · exact later found
          · rename_i tail fits
            obtain ⟨taken, whole, letters⟩ := afterLead?_eq_some fits
            rw [whole, ← List.length_map Char.toLower, ← letters, List.length_map,
              List.length_append]
            exact Nat.le_add_right _ _

theorem quote_mem_of_memberFrom? {before : List Char} {member : Member}
    (found : memberFrom? (quotedKey key) 0 before text = some member) : '"' ∈ text := by
  refine Decidable.byContradiction fun noQuote => ?_
  have passes : Passes key text := passes_of_no_quote noQuote
  have past := passes before []
  rw [List.append_nil, found] at past
  cases past

theorem memberFrom?_append_of_some {skip : Nat} {before : List Char} {member : Member}
    (found : memberFrom? (quotedKey key) skip before text = some member) (more : List Char) :
    memberFrom? (quotedKey key) skip before (text ++ more) =
      some { member with value := member.value ++ more } := by
  induction text generalizing skip before with
  | nil => cases skip <;> cases found
  | cons c text ih =>
      cases skip with
      | succ skip => exact ih found
      | zero =>
          simp only [List.cons_append, memberFrom?] at found ⊢
          cases fits : afterLead? (quotedKey key) (c :: text) with
          | none =>
              simp only [fits] at found
              have long := Nat.le_succ_of_le (length_le_of_memberFrom? found)
              have still := afterLead?_append_of_none long fits more
              rw [List.cons_append] at still
              simp only [still]
              exact ih found
          | some tail =>
              simp only [fits] at found
              have still := afterLead?_append_of_some fits more
              rw [List.cons_append] at still
              simp only [still]
              cases colon : afterColon? tail with
              | some value =>
                  simp only [colon] at found
                  cases found
                  simp only [afterColon?_append_of_some colon]
              | none =>
                  simp only [colon] at found
                  -- The member is found behind this occurrence, and so is its quote.
                  obtain ⟨taken, whole, letters⟩ := afterLead?_eq_some fits
                  have quoted : '"' ∈ tail := by
                    cases taken with
                    | nil => simp [quotedKey] at letters
                    | cons d taken =>
                        obtain ⟨-, behind⟩ := List.cons.inj whole
                        have length : (quotedKey key).length = taken.length + 1 := by
                          simpa using (congrArg List.length letters).symm
                        rw [length, Nat.add_sub_cancel, behind] at found
                        have past := memberFrom?_skip (quotedKey key) taken (c :: before) tail
                        rw [List.append_eq, past] at found
                        exact quote_mem_of_memberFrom? found
                  simp only [afterColon?_append_of_none quoted colon]
                  exact ih found

theorem member?_eq_none_of_cut {kept lost : List Char} (passes : Passes key (kept ++ lost)) :
    member? kept key = none := by
  rw [Option.eq_none_iff_forall_ne_some]
  intro member found
  have whole := memberFrom?_append_of_some found lost
  rw [← member?, member?_eq_none_of_passes passes] at whole
  cases whole

theorem valueText?_eq_none_of_cut {kept lost : List Char} (passes : Passes key (kept ++ lost)) :
    valueText? kept key = none := by
  rw [valueText?, member?_eq_none_of_cut passes]
  rfl

theorem map_value_memberFrom? (quoted : List Char) (skip : Nat) (before other text : List Char) :
    (memberFrom? quoted skip before text).map Member.value =
      (memberFrom? quoted skip other text).map Member.value := by
  induction text generalizing skip before other with
  | nil => cases skip <;> rfl
  | cons c text ih =>
      cases skip with
      | succ skip => exact ih skip (c :: before) (c :: other)
      | zero =>
          simp only [memberFrom?]
          split
          · exact ih 0 (c :: before) (c :: other)
          · split
            · rfl
            · exact ih _ (c :: before) (c :: other)

theorem valueText?_append_of_passes (passes : Passes key text) (rest : List Char) :
    valueText? (text ++ rest) key = valueText? rest key := by
  have values (text : List Char) :
      valueText? text key = ((member? text key).map Member.value).map trimStart := by
    rw [valueText?, Option.map_map]
    rfl
  have past := passes [] rest
  rw [values, values, member?, member?, past, map_value_memberFrom? _ _ _ []]

end

end FieldMenu.Scan
