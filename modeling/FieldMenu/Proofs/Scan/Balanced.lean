import FieldMenu.Scan.Array

namespace FieldMenu.Scan

namespace Quoting

/-- A reader who stands at `quoting` stays within the string to the end of the text, where the
closing quote may follow. -/
def staysInside : Quoting → List Char → Bool
  | quoting, [] => quoting == .inside
  | .outside, _ :: _ => false
  | quoting, c :: rest => staysInside (quoting.step c) rest

@[simp] theorem staysInside_outside (text : List Char) : staysInside .outside text = false := by
  cases text <;> rfl

theorem staysInside_cons {quoting : Quoting} {c : Char} {rest : List Char}
    (notOutside : quoting ≠ .outside) :
    quoting.staysInside (c :: rest) = (quoting.step c).staysInside rest := by
  cases quoting with
  | outside => exact absurd rfl notOutside
  | inside => rfl
  | escaped => rfl

theorem ne_outside_of_staysInside {quoting : Quoting} {text : List Char}
    (stays : quoting.staysInside text = true) : quoting ≠ .outside := by
  rintro rfl
  simp at stays

theorem staysInside_inside_cons {c : Char} {rest : List Char}
    (stays : staysInside .inside (c :: rest) = true) :
    c ≠ '"' ∧ staysInside (Quoting.step .inside c) rest = true := by
  refine ⟨?_, stays⟩
  rintro rfl
  simp [staysInside, step] at stays

end Quoting

theorem quoted?_of_staysInside (escaped : Bool) {content : List Char} (read rest : List Char)
    (stays : Quoting.staysInside (if escaped then .escaped else .inside) content = true) :
    quoted? escaped read (content ++ '"' :: rest) = some (read.reverse ++ content, rest) := by
  induction content generalizing escaped read with
  | nil =>
      cases escaped with
      | true => simp [Quoting.staysInside] at stays
      | false => simp [quoted?]
  | cons c content ih =>
      cases escaped with
      | true =>
          have later : Quoting.staysInside .inside content = true := stays
          simpa [quoted?] using ih false (c :: read) later
      | false =>
          obtain ⟨notQuote, later⟩ := Quoting.staysInside_inside_cons stays
          have later : Quoting.staysInside
              (if decide (c = '\\') = true then .escaped else .inside) content = true := by
            simpa [Quoting.step, notQuote] using later
          simpa [quoted?, notQuote] using ih _ (c :: read) later

theorem enclosed?_of_staysInside {opener closer : Char} {quoting : Quoting} {content : List Char}
    (depth : Nat) (read rest : List Char) (stays : quoting.staysInside content = true) :
    enclosed? opener closer depth quoting read (content ++ '"' :: rest) =
      enclosed? opener closer depth .outside ('"' :: content.reverse ++ read) rest := by
  induction content generalizing quoting read with
  | nil =>
      have inside : quoting = .inside := by simpa [Quoting.staysInside] using stays
      subst inside
      simp [enclosed?, Quoting.step]
  | cons c content ih =>
      cases quoting with
      | outside => simp at stays
      | inside =>
          rw [List.cons_append, enclosed?, ih _ (Quoting.staysInside_inside_cons stays).2]
          simp
      | escaped =>
          rw [List.cons_append, enclosed?, ih _ (by simpa [Quoting.staysInside] using stays)]
          simp

theorem foldl_objectStep_of_staysInside {content : List Char} (sweep : ObjectSweep)
    (stays : sweep.quoting.staysInside content = true) (within : sweep.depth ≠ 0) :
    (content ++ ['"']).foldl ObjectSweep.step sweep =
      { sweep with quoting := .outside, current := '"' :: content.reverse ++ sweep.current } := by
  induction content generalizing sweep with
  | nil =>
      have inside : sweep.quoting = .inside := by simpa [Quoting.staysInside] using stays
      simp [ObjectSweep.step, ObjectSweep.keep, inside, within, Quoting.step]
  | cons c content ih =>
      have notOutside := Quoting.ne_outside_of_staysInside stays
      rw [Quoting.staysInside_cons notOutside] at stays
      let next : ObjectSweep :=
        { sweep with quoting := sweep.quoting.step c, current := c :: sweep.current }
      have kept : sweep.step c = next := by
        simp [ObjectSweep.step, ObjectSweep.keep, notOutside, within, next]
      rw [List.cons_append, List.foldl_cons, kept, ih next stays within]
      simp [next]

theorem foldl_stringStep_of_staysInside {content : List Char} (sweep : StringSweep)
    (stays : sweep.quoting.staysInside content = true) :
    (content ++ ['"']).foldl StringSweep.step sweep =
      { found := (sweep.current.reverse ++ content) :: sweep.found } := by
  induction content generalizing sweep with
  | nil =>
      have inside : sweep.quoting = .inside := by simpa [Quoting.staysInside] using stays
      simp [StringSweep.step, inside, Quoting.step]
  | cons c content ih =>
      have notOutside := Quoting.ne_outside_of_staysInside stays
      rw [Quoting.staysInside_cons notOutside] at stays
      have kept : sweep.step c =
          { sweep with quoting := sweep.quoting.step c, current := c :: sweep.current } := by
        cases quoting : sweep.quoting with
        | outside => exact absurd quoting notOutside
        | inside =>
            cases next : Quoting.step .inside c with
            | outside => simp [quoting, next] at stays
            | inside => simp [StringSweep.step, quoting, next]
            | escaped => simp [StringSweep.step, quoting, next]
        | escaped => simp [StringSweep.step, quoting, Quoting.step]
      rw [List.cons_append, List.foldl_cons, kept, ih _ stays]
      simp

theorem closerOf?_eq_some {opener closer : Char} (pair : closerOf? opener = some closer) :
    opener = '[' ∧ closer = ']' ∨ opener = '{' ∧ closer = '}' := by
  unfold closerOf? at pair
  split at pair <;> simp_all [eq_comm]

def isInert (c : Char) : Bool :=
  c != '"' && c != '[' && c != ']' && c != '{' && c != '}'

/-- Text in which every string ends and every bracket has its partner. -/
inductive Balanced : List Char → Prop
  | nil : Balanced []
  | inert {c : Char} (inert : isInert c = true) : Balanced [c]
  | string {content : List Char} (stays : Quoting.staysInside .inside content = true) :
      Balanced ('"' :: content ++ ['"'])
  | bracketed {opener closer : Char} {text : List Char} (pair : closerOf? opener = some closer)
      (inner : Balanced text) : Balanced (opener :: text ++ [closer])
  | append {left right : List Char} (first : Balanced left) (second : Balanced right) :
      Balanced (left ++ right)

namespace Balanced

theorem of_inert {text : List Char} (inert : ∀ c ∈ text, isInert c = true) : Balanced text := by
  induction text with
  | nil => exact .nil
  | cons c text ih =>
      exact .append (.inert (inert c (by simp))) (ih fun d member => inert d (by simp [member]))

theorem enclosed?_append {opener closer : Char} {text : List Char} (balanced : Balanced text)
    (pair : closerOf? opener = some closer) (depth : Nat) (read rest : List Char) :
    enclosed? opener closer depth .outside read (text ++ rest) =
      enclosed? opener closer depth .outside (text.reverse ++ read) rest := by
  induction balanced generalizing depth read rest with
  | nil => rfl
  | @inert c inert =>
      have different : c ≠ opener ∧ c ≠ closer ∧ c ≠ '"' := by
        obtain ⟨rfl, rfl⟩ | ⟨rfl, rfl⟩ := closerOf?_eq_some pair <;> simp_all [isInert]
      simp [enclosed?, different, Quoting.step]
  | @string content stays =>
      have different : '"' ≠ opener ∧ '"' ≠ closer := by
        obtain ⟨rfl, rfl⟩ | ⟨rfl, rfl⟩ := closerOf?_eq_some pair <;> decide
      simp only [List.cons_append, List.append_assoc, List.nil_append, enclosed?, different,
        if_false]
      rw [show Quoting.step .outside '"' = .inside from rfl, enclosed?_of_staysInside _ _ _ stays]
      simp
  | @bracketed innerOpener innerCloser text innerPair inner ih =>
      -- Brackets of the kind looked for go one level down and up again; others count for nothing.
      simp only [List.cons_append, List.append_assoc, List.nil_append]
      obtain ⟨rfl, rfl⟩ | ⟨rfl, rfl⟩ := closerOf?_eq_some pair <;>
        obtain ⟨rfl, rfl⟩ | ⟨rfl, rfl⟩ := closerOf?_eq_some innerPair <;>
        simp [enclosed?, ih, Quoting.step]
  | @append left right _ _ first second =>
      rw [List.append_assoc, first, second]
      simp

theorem foldl_objectStep {text : List Char} (balanced : Balanced text) (sweep : ObjectSweep)
    (outside : sweep.quoting = .outside) (within : sweep.depth ≠ 0) :
    text.foldl ObjectSweep.step sweep =
      { sweep with current := text.reverse ++ sweep.current } := by
  induction balanced generalizing sweep with
  | nil => rfl
  | @inert c inert =>
      have different : c ≠ '{' ∧ c ≠ '}' ∧ c ≠ '"' := by simp_all [isInert]
      simp [ObjectSweep.step, ObjectSweep.keep, different, outside, within, Quoting.step]
  | @string content stays =>
      let opened : ObjectSweep :=
        { sweep with quoting := .inside, current := '"' :: sweep.current }
      have step : sweep.step '"' = opened := by
        simp [ObjectSweep.step, ObjectSweep.keep, outside, within, Quoting.step, opened]
      rw [List.cons_append, List.foldl_cons, step,
        foldl_objectStep_of_staysInside opened stays within]
      simp [opened, outside]
  | @bracketed opener closer text pair inner ih =>
      obtain ⟨depth, deeper⟩ := Nat.exists_eq_succ_of_ne_zero within
      rw [List.cons_append, List.foldl_cons, List.foldl_append]
      obtain ⟨rfl, rfl⟩ | ⟨rfl, rfl⟩ := closerOf?_eq_some pair
      · -- square brackets leave the depth as it is
        rw [ih _ (by simp [ObjectSweep.step, ObjectSweep.keep, outside, Quoting.step])
          (by simp [ObjectSweep.step, ObjectSweep.keep, outside, within])]
        simp [ObjectSweep.step, ObjectSweep.keep, outside, within, Quoting.step]
      · rw [ih _ (by simp [ObjectSweep.step, outside]) (by simp [ObjectSweep.step, outside])]
        simp [ObjectSweep.step, ObjectSweep.close, outside, deeper]
  | @append left right _ _ first second =>
      let between : ObjectSweep := { sweep with current := left.reverse ++ sweep.current }
      rw [List.foldl_append, first sweep outside within, second between outside within]
      simp [between]

end Balanced

end FieldMenu.Scan
