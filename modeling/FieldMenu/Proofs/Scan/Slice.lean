import FieldMenu.Proofs.Scan.Bytes

namespace FieldMenu.Scan

inductive Fault where
  | pastEnd (offset : Nat)
  | insideCharacter (offset : Nat)
  | outOfOrder (first last : Nat)
  | belowZero (whole part : Nat)
deriving DecidableEq, Repr

@[simp] theorem Fault.ok_bind {α β : Type} (value : α) (next : α → Except Fault β) :
    (Except.ok value >>= next) = next value :=
  rfl

def sliceFrom (text : List Char) (first : Nat) : Except Fault (List Char) :=
  match suffixAt? first text with
  | some behind => .ok behind
  | none => .error (if byteLength text < first then .pastEnd first else .insideCharacter first)

def slice (text : List Char) (first last : Nat) : Except Fault (List Char) :=
  if last < first then .error (.outOfOrder first last)
  else do
    let ahead ← sliceFrom text first
    let behind ← sliceFrom text last
    .ok (ahead.take (ahead.length - behind.length))

/-- The bytes from an offset on, which may lie inside a character. -/
def bytesFrom (all : List UInt8) (first : Nat) : Except Fault (List UInt8) :=
  if first ≤ all.length then .ok (all.drop first) else .error (.pastEnd first)

def byteAt (all : List UInt8) (offset : Nat) : Except Fault UInt8 :=
  match all[offset]? with
  | some b => .ok b
  | none => .error (.pastEnd offset)

/-- A length less another one, which must not be the longer of the two. -/
def lengthWithout (whole part : Nat) : Except Fault Nat :=
  if part ≤ whole then .ok (whole - part) else .error (.belowZero whole part)

theorem sliceFrom_eq_ok_iff {text behind : List Char} {first : Nat} :
    sliceFrom text first = .ok behind ↔
      ∃ front, text = front ++ behind ∧ byteLength front = first := by
  rw [← suffixAt?_eq_some_iff, sliceFrom]
  cases suffixAt? first text with
  | none => simp
  | some found => simp

@[simp] theorem sliceFrom_append (front behind : List Char) :
    sliceFrom (front ++ behind) (byteLength front) = .ok behind :=
  sliceFrom_eq_ok_iff.mpr ⟨front, rfl, rfl⟩

theorem exists_between {front longer ahead behind : List Char}
    (same : front ++ ahead = longer ++ behind) (ordered : byteLength front ≤ byteLength longer) :
    ∃ between, longer = front ++ between ∧ ahead = between ++ behind := by
  rcases List.append_eq_append_iff.mp same with ⟨between, first, second⟩ | ⟨extra, rfl, rfl⟩
  · exact ⟨between, first, second⟩
  · cases extra with
    | nil => exact ⟨[], by simp, rfl⟩
    | cons c extra =>
        have positive := byteLength_pos (List.cons_ne_nil c extra)
        rw [byteLength_append] at ordered
        omega

theorem slice_eq_ok_iff {text part : List Char} {first last : Nat} :
    slice text first last = .ok part ↔
      ∃ front back, text = front ++ part ++ back ∧ byteLength front = first ∧
        byteLength (front ++ part) = last := by
  constructor
  · intro cut
    rw [slice] at cut
    split at cut
    · cases cut
    · rename_i ordered
      cases fromFirst : sliceFrom text first with
      | error fault =>
          rw [fromFirst] at cut
          cases cut
      | ok ahead =>
          cases fromLast : sliceFrom text last with
          | error fault =>
              rw [fromFirst, fromLast] at cut
              cases cut
          | ok behind =>
              rw [fromFirst, fromLast] at cut
              obtain ⟨front, rfl, rfl⟩ := sliceFrom_eq_ok_iff.mp fromFirst
              obtain ⟨longer, same, rfl⟩ := sliceFrom_eq_ok_iff.mp fromLast
              obtain ⟨between, rfl, rfl⟩ := exists_between same (Nat.le_of_not_lt ordered)
              have part : between = part := by simpa using cut
              exact ⟨front, behind, by rw [← part, List.append_assoc], rfl, by rw [part]⟩
  · rintro ⟨front, back, rfl, rfl, rfl⟩
    have ordered : ¬ byteLength (front ++ part) < byteLength front := by
      rw [byteLength_append]
      omega
    have ahead : sliceFrom (front ++ part ++ back) (byteLength front) = .ok (part ++ back) := by
      rw [List.append_assoc]
      exact sliceFrom_append front (part ++ back)
    rw [slice, if_neg ordered, ahead, sliceFrom_append]
    simp

@[simp] theorem slice_append (front part back : List Char) :
    slice (front ++ part ++ back) (byteLength front) (byteLength (front ++ part)) = .ok part :=
  slice_eq_ok_iff.mpr ⟨front, back, rfl, rfl, rfl⟩

theorem lengthWithout_append (front behind : List Char) :
    lengthWithout (byteLength (front ++ behind)) (byteLength behind) = .ok (byteLength front) := by
  rw [lengthWithout, byteLength_append, if_pos (by omega), Nat.add_sub_cancel]

end FieldMenu.Scan
