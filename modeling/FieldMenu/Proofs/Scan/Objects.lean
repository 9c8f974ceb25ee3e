import FieldMenu.Proofs.Scan.Matching
import Mathlib.Data.List.Forall2

namespace FieldMenu.Scan

theorem foldl_step_of_enclosed? {opener closer : Char} (pair : closerOf? opener = some closer)
    {depth : Nat} {quoting : Quoting} {read text body rest : List Char}
    (closed : enclosed? opener closer depth quoting read text = some (body, rest)) :
    ∃ inner, body = read.reverse ++ inner ∧ inner.foldl Quoting.step quoting = .outside := by
  obtain ⟨openerStays, closerStays⟩ :
      Quoting.step .outside opener = .outside ∧ Quoting.step .outside closer = .outside := by
    obtain ⟨rfl, rfl⟩ | ⟨rfl, rfl⟩ := closerOf?_eq_some pair <;> decide
  induction text generalizing depth quoting read with
  | nil => cases quoting <;> cases closed
  | cons c text ih =>
      have past {depth : Nat} {next : Quoting} (same : quoting.step c = next)
          (later : enclosed? opener closer depth next (c :: read) text = some (body, rest)) :
          ∃ inner, body = read.reverse ++ inner ∧
            inner.foldl Quoting.step quoting = .outside := by
        obtain ⟨inner, rfl, outside⟩ := ih later
        exact ⟨c :: inner, by simp, by rw [List.foldl_cons, same, outside]⟩
      cases quoting with
      | inside | escaped => exact past rfl closed
      | outside =>
          simp only [enclosed?] at closed
          split at closed
          · rename_i opens
            exact past (opens ▸ openerStays) closed
          · split at closed
            · rename_i closes
              cases depth with
              | zero =>
                  cases closed
                  exact ⟨[], by simp, rfl⟩
              | succ depth => exact past (closes ▸ closerStays) closed
            · exact past rfl closed

/-- Inside an object the sweep follows the search for its end: it finds the object there and goes on
behind it, and without an end it finds nothing more. -/
theorem found_foldl_objectStep (depth : Nat) (quoting : Quoting) (read lead : List Char)
    (found : List (List Char)) (text : List Char) :
    (text.foldl ObjectSweep.step
        { quoting := quoting, depth := depth + 1, current := read ++ lead, found := found }).found =
      match enclosed? '{' '}' depth quoting read text with
      | some (inner, rest) =>
          (rest.foldl ObjectSweep.step
            { found := (lead.reverse ++ inner ++ ['}']) :: found }).found
      | none => found := by
  induction text generalizing depth quoting read with
  | nil => cases quoting <;> rfl
  | cons c text ih =>
      rw [List.foldl_cons]
      cases quoting with
      | inside => exact ih depth (Quoting.step .inside c) (c :: read)
      | escaped => exact ih depth (Quoting.step .escaped c) (c :: read)
      | outside =>
          by_cases opens : c = '{'
          · subst opens
            exact ih (depth + 1) .outside ('{' :: read)
          · by_cases closes : c = '}'
            · subst closes
              cases depth with
              | zero => simp [ObjectSweep.step, ObjectSweep.close, enclosed?]
              | succ depth => exact ih depth .outside ('}' :: read)
            · have kept : ObjectSweep.step
                  { quoting := .outside, depth := depth + 1, current := read ++ lead,
                    found := found } c =
                  { quoting := Quoting.step .outside c, depth := depth + 1,
                    current := (c :: read) ++ lead, found := found } := by
                simp [ObjectSweep.step, ObjectSweep.keep, opens, closes]
              rw [kept, ih depth (Quoting.step .outside c) (c :: read)]
              simp only [enclosed?, opens, closes, if_false]

theorem found_foldl_brace (before : List (List Char)) (rest : List Char) :
    (('{' :: rest).foldl ObjectSweep.step { found := before }).found =
      match enclosed? '{' '}' 0 .outside [] rest with
      | some (inner, behind) =>
          (behind.foldl ObjectSweep.step { found := ('{' :: inner ++ ['}']) :: before }).found
      | none => before :=
  found_foldl_objectStep 0 .outside [] ['{'] before rest

theorem objectStep_apart {quoting : Quoting} {c : Char}
    (noOpener : ¬ (quoting = .outside ∧ c = '{')) (found : List (List Char)) :
    ObjectSweep.step { quoting := quoting, found := found } c =
      { quoting := quoting.step c, found := found } := by
  by_cases closes : quoting = .outside ∧ c = '}'
  · obtain ⟨rfl, rfl⟩ := closes
    rfl
  · simp only [ObjectSweep.step, noOpener, closes, if_false, ObjectSweep.keep, if_true]

/-- The outermost objects that a reader in some state has in front of him. -/
inductive Splits : Quoting → List Char → List (List Char) → Prop
  | nil (quoting : Quoting) : Splits quoting [] []
  | apart {quoting : Quoting} {c : Char} {rest : List Char} {found : List (List Char)}
      (noOpener : ¬ (quoting = .outside ∧ c = '{')) (later : Splits (quoting.step c) rest found) :
      Splits quoting (c :: rest) found
  | object {inner rest behind : List Char} {found : List (List Char)}
      (closed : enclosed? '{' '}' 0 .outside [] rest = some (inner, behind))
      (later : Splits .outside behind found) :
      Splits .outside ('{' :: rest) (('{' :: inner ++ ['}']) :: found)
  | unclosed {rest : List Char} (never : enclosed? '{' '}' 0 .outside [] rest = none) :
      Splits .outside ('{' :: rest) []

theorem exists_splits (quoting : Quoting) (text : List Char) : ∃ found, Splits quoting text found := by
  match text with
  | [] => exact ⟨[], .nil quoting⟩
  | c :: rest =>
      by_cases opens : quoting = .outside ∧ c = '{'
      · obtain ⟨rfl, rfl⟩ := opens
        cases closed : enclosed? '{' '}' 0 .outside [] rest with
        | none => exact ⟨[], .unclosed closed⟩
        | some parts =>
            have shorter : parts.2.length < rest.length := by
              have whole := congrArg List.length (enclosed?_eq_some closed)
              simp at whole
              omega
            obtain ⟨found, splits⟩ := exists_splits .outside parts.2
            exact ⟨_, .object closed splits⟩
      · obtain ⟨found, splits⟩ := exists_splits (quoting.step c) rest
        exact ⟨found, .apart opens splits⟩
termination_by text.length

namespace Splits

variable {quoting : Quoting} {text : List Char} {found : List (List Char)}

theorem found_foldl (splits : Splits quoting text found) (before : List (List Char)) :
    (text.foldl ObjectSweep.step { quoting := quoting, found := before }).found =
      found.reverse ++ before := by
  induction splits generalizing before with
  | nil quoting => rfl
  | apart noOpener later ih => rw [List.foldl_cons, objectStep_apart noOpener, ih]
  | object closed later ih =>
      rw [found_foldl_brace]
      simp [closed, ih]
  | unclosed never =>
      rw [found_foldl_brace]
      simp [never]

theorem objects_eq (splits : Splits .outside text found) : objects text = found := by
  rw [objects, splits.found_foldl, List.append_nil, List.reverse_reverse]

theorem append_of_no_mark {front : List Char} (noQuote : '"' ∉ front) (noBrace : '{' ∉ front)
    (splits : Splits .outside text found) : Splits .outside (front ++ text) found := by
  induction front with
  | nil => exact splits
  | cons c front ih =>
      rw [List.mem_cons, not_or] at noQuote noBrace
      have stays : Quoting.step .outside c = .outside := if_neg (Ne.symm noQuote.1)
      refine .apart (fun opens => noBrace.1 opens.2.symm) ?_
      rw [stays]
      exact ih noQuote.2 noBrace.2

theorem infix_of_mem (splits : Splits quoting text found) :
    ∀ object ∈ found, object <:+: text := by
  induction splits with
  | nil quoting => simp
  | unclosed never => simp
  | @apart quoting c rest found noOpener later ih =>
      exact fun object there => (ih object there).trans (List.suffix_cons c rest).isInfix
  | @object inner rest behind found closed later ih =>
      have whole : rest = inner ++ '}' :: behind := enclosed?_eq_some closed
      refine List.forall_mem_cons.mpr ⟨⟨[], behind, by simp [whole]⟩, fun object there => ?_⟩
      exact (ih object there).trans ⟨'{' :: inner ++ ['}'], [], by simp [whole]⟩

end Splits

theorem splits_objects (text : List Char) : Splits .outside text (objects text) := by
  obtain ⟨found, splits⟩ := exists_splits .outside text
  rw [splits.objects_eq]
  exact splits

structure OpensAt (all : List UInt8) (place : Nat) : Prop where
  brace : all[place]? = some '{'.toUInt8
  outside : (all.take place).foldl Quoting.stepByte .outside = .outside

theorem opensAt_bytes_iff {text : List Char} {place : Nat} :
    OpensAt (bytes text) place ↔ ∃ front rest, text = front ++ '{' :: rest ∧
      byteLength front = place ∧ front.foldl Quoting.step .outside = .outside := by
  have outside_iff (front rest : List Char) :
      ((bytes (front ++ '{' :: rest)).take (byteLength front)).foldl Quoting.stepByte .outside =
        front.foldl Quoting.step .outside := by
    rw [take_bytes_append, Quoting.foldl_stepByte_bytes]
  constructor
  · rintro ⟨brace, outside⟩
    obtain ⟨rest, there⟩ := (getElem?_bytes_eq_some_iff rfl).mp brace
    obtain ⟨front, rfl, rfl⟩ := suffixAt?_eq_some_iff.mp there
    rw [outside_iff] at outside
    exact ⟨front, rest, rfl, rfl, outside⟩
  · rintro ⟨front, rest, rfl, rfl, outside⟩
    refine ⟨(getElem?_bytes_eq_some_iff rfl).mpr ⟨rest, suffixAt?_append front _⟩, ?_⟩
    rw [outside_iff, outside]

theorem OpensAt.here_or_later {front rest : List Char} {c : Char} {place : Nat}
    (opens : OpensAt (bytes (front ++ c :: rest)) place) (late : byteLength front ≤ place) :
    (c = '{' ∧ front.foldl Quoting.step .outside = .outside) ∨
      byteLength (front ++ [c]) ≤ place := by
  obtain ⟨longer, behind, whole, rfl, outside⟩ := opensAt_bytes_iff.mp opens
  obtain ⟨between, rfl, ahead⟩ := exists_between whole late
  cases between with
  | nil =>
      rw [List.append_nil] at outside
      exact .inl ⟨(List.cons.inj ahead).1, outside⟩
  | cons d between =>
      obtain ⟨rfl, _⟩ := List.cons.inj ahead
      refine .inr ?_
      simp only [byteLength_append, byteLength_cons, byteLength_nil]
      omega

structure Span where
  first : Nat
  last : Nat
deriving DecidableEq, Repr

theorem byteLength_braced (front inner : List Char) :
    byteLength (front ++ ('{' :: inner ++ ['}'])) = byteLength front + 1 + byteLength inner + 1 := by
  have brace : '{'.utf8Size = 1 ∧ '}'.utf8Size = 1 := ⟨rfl, rfl⟩
  simp only [byteLength_append, byteLength_cons, byteLength_nil, brace]
  omega

/-- The places of the outermost objects of a text from `start` on. -/
structure AreSpans (text : List Char) (start : Nat) (spans : List Span)
    (found : List (List Char)) : Prop where
  slices : List.Forall₂ (fun span object => slice text span.first (span.last + 1) = .ok object)
    spans found
  ordered : spans.Pairwise fun span next => span.last < next.first
  late : ∀ span ∈ spans, start ≤ span.first
  opens : ∀ span ∈ spans, OpensAt (bytes text) span.first
  closes : ∀ span ∈ spans, matchingBracket? text span.first = some span.last
  /-- An opening brace is within an object found, or behind them all, and then at or behind one that
  is never closed. -/
  complete : ∀ place, start ≤ place → OpensAt (bytes text) place →
    (∃ span ∈ spans, span.first ≤ place ∧ place ≤ span.last) ∨
      ∃ first, start ≤ first ∧ first ≤ place ∧ OpensAt (bytes text) first ∧
        matchingBracket? text first = none ∧ ∀ span ∈ spans, span.last < first

theorem AreSpans.cons {front inner behind : List Char} {spans : List Span}
    {found : List (List Char)}
    (closed : enclosed? '{' '}' 0 .outside [] (inner ++ '}' :: behind) = some (inner, behind))
    (state : front.foldl Quoting.step .outside = .outside)
    (others : AreSpans (front ++ '{' :: (inner ++ '}' :: behind))
      (byteLength front + 1 + byteLength inner + 1) spans found) :
    AreSpans (front ++ '{' :: (inner ++ '}' :: behind)) (byteLength front)
      (⟨byteLength front, byteLength front + 1 + byteLength inner⟩ :: spans)
      (('{' :: inner ++ ['}']) :: found) where
  slices :=
    .cons (slice_eq_ok_iff.mpr ⟨front, behind, by simp, rfl, byteLength_braced front inner⟩)
      others.slices
  ordered := .cons (fun span there => others.late span there) others.ordered
  late := List.forall_mem_cons.mpr ⟨Nat.le_refl _, fun span there => by
    have late := others.late span there
    omega⟩
  opens := List.forall_mem_cons.mpr
    ⟨opensAt_bytes_iff.mpr ⟨front, _, rfl, rfl, state⟩, others.opens⟩
  closes := by
    refine List.forall_mem_cons.mpr ⟨?_, others.closes⟩
    rw [matchingBracket?_append (show closerOf? '{' = some '}' from rfl), closed]
    rfl
  complete place late opens := by
    by_cases within : place ≤ byteLength front + 1 + byteLength inner
    · exact .inl ⟨_, List.mem_cons_self, late, within⟩
    · rcases others.complete place (by omega) opens with ⟨span, there, around⟩ | unclosed
      · exact .inl ⟨span, List.mem_cons_of_mem _ there, around⟩
      · obtain ⟨first, behind, before, opens, never, past⟩ := unclosed
        exact .inr ⟨first, by omega, before, opens, never,
          List.forall_mem_cons.mpr ⟨behind, past⟩⟩

theorem Splits.exists_spans {quoting : Quoting} {text : List Char} {found : List (List Char)}
    (splits : Splits quoting text found) {front : List Char}
    (state : front.foldl Quoting.step .outside = quoting) :
    ∃ spans, AreSpans (front ++ text) (byteLength front) spans found := by
  induction splits generalizing front with
  | nil quoting =>
      refine ⟨[], .nil, .nil, by simp, by simp, by simp, fun place late opens => ?_⟩
      have within := (List.getElem?_eq_some_iff.mp opens.brace).1
      rw [length_bytes, List.append_nil] at within
      omega
  | @apart quoting c rest found noOpener later ih =>
      have next : (front ++ [c]).foldl Quoting.step .outside = quoting.step c := by
        rw [List.foldl_append, state]
        rfl
      obtain ⟨spans, areSpans⟩ := ih next
      rw [List.append_assoc, List.singleton_append] at areSpans
      have behind : byteLength front ≤ byteLength (front ++ [c]) := by
        rw [byteLength_append]
        exact Nat.le_add_right _ _
      refine ⟨spans, areSpans.slices, areSpans.ordered,
        fun span there => Nat.le_trans behind (areSpans.late span there), areSpans.opens,
        areSpans.closes, fun place late opens => ?_⟩
      rcases opens.here_or_later late with ⟨brace, outside⟩ | later
      · exact absurd ⟨state.symm.trans outside, brace⟩ noOpener
      · refine (areSpans.complete place later opens).imp id ?_
        rintro ⟨first, late, others⟩
        exact ⟨first, Nat.le_trans behind late, others⟩
  | @object inner rest behind found closed later ih =>
      obtain rfl : rest = inner ++ '}' :: behind := enclosed?_eq_some closed
      have outside : inner.foldl Quoting.step .outside = .outside := by
        obtain ⟨content, rfl, outside⟩ :=
          foldl_step_of_enclosed? (show closerOf? '{' = some '}' from rfl) closed
        exact outside
      have next : (front ++ ('{' :: inner ++ ['}'])).foldl Quoting.step .outside = .outside := by
        simp [List.foldl_append, state, outside, Quoting.step]
      obtain ⟨spans, areSpans⟩ := ih next
      have others : AreSpans (front ++ '{' :: (inner ++ '}' :: behind))
          (byteLength front + 1 + byteLength inner + 1) spans found := by
        rw [byteLength_braced] at areSpans
        simpa using areSpans
      exact ⟨_, .cons closed state others⟩
  | @unclosed rest never =>
      have pair : closerOf? '{' = some '}' := rfl
      have opens := opensAt_bytes_iff.mpr ⟨front, rest, rfl, rfl, state⟩
      refine ⟨[], .nil, .nil, by simp, by simp, by simp, fun place late _ => .inr ?_⟩
      exact ⟨byteLength front, Nat.le_refl _, late, opens,
        by rw [matchingBracket?_append pair, never]; rfl, by simp⟩

end FieldMenu.Scan
