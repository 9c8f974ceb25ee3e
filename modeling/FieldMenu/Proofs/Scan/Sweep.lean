import FieldMenu.Proofs.Scan.Matching

namespace FieldMenu.Scan

open Text

namespace Offset

/-- Where `front` has been read, the two sweeps are in the same state. -/
structure Follows (front : List Char) (sweep : Sweep) (chars : ObjectSweep) : Prop where
  quoting : sweep.quoting = chars.quoting
  depth : sweep.depth = chars.depth
  found : sweep.found = chars.found
  place : sweep.place = byteLength front
  idle : chars.depth = 0 → chars.current = []
  reading : chars.depth ≠ 0 →
    ∃ lead, front = lead ++ chars.current.reverse ∧ sweep.start = byteLength lead

section

variable {body front rest : List Char} {c : Char} {sweep : Sweep} {chars : ObjectSweep}

theorem Follows.keep (follows : Follows front sweep chars) (c : Char) :
    Follows (front ++ [c])
      { sweep with quoting := sweep.quoting.step c, place := sweep.place + c.utf8Size }
      (chars.keep c) where
  quoting := by rw [follows.quoting]; rfl
  depth := follows.depth
  found := follows.found
  place := by simp [follows.place]
  idle outside := if_pos outside
  reading inside := by
    have inside : chars.depth ≠ 0 := inside
    obtain ⟨lead, whole, start⟩ := follows.reading inside
    exact ⟨lead, by simp [whole, ObjectSweep.keep, inside], start⟩

theorem foldlM_step_of_high {high : List UInt8} (each : ∀ b ∈ high, 128 ≤ b.toNat)
    (sweep : Sweep) : high.foldlM (Sweep.step body) sweep =
      .ok { sweep with
        quoting := high.foldl Quoting.stepByte sweep.quoting
        place := sweep.place + high.length } := by
  induction high generalizing sweep with
  | nil => rfl
  | cons b high ih =>
      obtain ⟨first, others⟩ := List.forall_mem_cons.mp each
      have opener := ne_toUInt8_of_high first '{' rfl
      have closer := ne_toUInt8_of_high first '}' rfl
      have passed : Sweep.step body sweep b = .ok (sweep.advance b) := by
        simp [Sweep.step, opener, closer]
      rw [List.foldlM_cons, passed, Fault.ok_bind, ih others]
      simp [Sweep.advance, Nat.add_assoc, Nat.add_comm 1]

theorem Follows.opener (follows : Follows front sweep chars) (outside : chars.quoting = .outside) :
    ∃ next, Sweep.step body sweep '{'.toUInt8 = .ok next ∧
      Follows (front ++ ['{']) next (chars.step '{') := by
  have inSweep := follows.quoting.trans outside
  have opens : chars.step '{' =
      { chars with depth := chars.depth + 1, current := '{' :: chars.current } := by
    simp [ObjectSweep.step, outside]
  refine ⟨_, if_pos ⟨inSweep, rfl⟩, ?_⟩
  rw [opens]
  refine ⟨?_, congrArg Nat.succ follows.depth, follows.found, ?_, ?_, ?_⟩
  · rw [outside, Sweep.advance, inSweep]
    rfl
  · rw [Sweep.advance, follows.place, byteLength_append]
    rfl
  · exact fun idle => absurd idle (Nat.succ_ne_zero _)
  · intro _
    by_cases idle : chars.depth = 0
    · refine ⟨front, ?_, ?_⟩
      · simp [follows.idle idle]
      · rw [if_pos (follows.depth.trans idle), follows.place]
    · obtain ⟨lead, whole, start⟩ := follows.reading idle
      refine ⟨lead, by simp [whole], ?_⟩
      rw [if_neg (by rwa [follows.depth]), start]

theorem Follows.closer (follows : Follows front sweep chars) (outside : chars.quoting = .outside)
    (whole : body = front ++ '}' :: rest) :
    ∃ next, Sweep.step body sweep '}'.toUInt8 = .ok next ∧
      Follows (front ++ ['}']) next (chars.step '}') := by
  have inSweep := follows.quoting.trans outside
  have noOpener : ¬ (sweep.quoting = .outside ∧ '}'.toUInt8 = '{'.toUInt8) :=
    fun opens => absurd opens.2 (by decide)
  have closes : chars.step '}' = chars.close := by simp [ObjectSweep.step, outside]
  have place : sweep.place + 1 = byteLength (front ++ ['}']) := by
    rw [follows.place, byteLength_append]
    rfl
  have quoting : Quoting.stepByte .outside '}'.toUInt8 = chars.quoting := by
    rw [outside]
    rfl
  rw [Sweep.step, if_neg noOpener, if_pos ⟨inSweep, rfl⟩, closes, follows.depth, ObjectSweep.close]
  cases depth : chars.depth with
  | zero =>
      have idle := follows.idle depth
      refine ⟨_, rfl, ?_, follows.depth, follows.found, place, fun _ => idle, ?_⟩
      · rw [Sweep.advance, inSweep, quoting]
      · exact fun inside => absurd depth inside
  | succ deeper =>
      obtain ⟨lead, front_eq, start⟩ := follows.reading (by rw [depth]; exact Nat.succ_ne_zero _)
      cases deeper with
      | zero =>
          have cut : slice body sweep.start (sweep.place + 1) =
              .ok ('}' :: chars.current).reverse := by
            refine slice_eq_ok_iff.mpr ⟨lead, rest, ?_, start.symm, ?_⟩
            · rw [whole, front_eq]
              simp
            · rw [place, front_eq]
              simp
          simp only [cut, Fault.ok_bind]
          refine ⟨_, rfl, ?_, rfl, congrArg _ follows.found, place, fun _ => rfl, ?_⟩
          · rw [Sweep.advance, inSweep, quoting]
          · exact fun inside => absurd rfl inside
      | succ deeper =>
          refine ⟨_, rfl, ?_, rfl, follows.found, place, ?_, ?_⟩
          · rw [Sweep.advance, inSweep, quoting]
          · exact fun idle => absurd idle (Nat.succ_ne_zero _)
          · exact fun _ => ⟨lead, by simp [front_eq], start⟩

theorem Follows.step (follows : Follows front sweep chars) (whole : body = front ++ c :: rest) :
    ∃ next, (String.utf8EncodeChar c).foldlM (Sweep.step body) sweep = .ok next ∧
      Follows (front ++ [c]) next (chars.step c) := by
  cases ascii : isAscii c with
  | false =>
      have noOpener := ne_of_not_isAscii ascii '{' rfl
      have noCloser := ne_of_not_isAscii ascii '}' rfl
      have kept : chars.step c = chars.keep c := by
        simp [ObjectSweep.step, noOpener, noCloser]
      rw [foldlM_step_of_high (le_of_mem_utf8EncodeChar ascii), kept,
        Quoting.foldl_stepByte_utf8EncodeChar, String.length_utf8EncodeChar]
      exact ⟨_, rfl, follows.keep c⟩
  | true =>
      have single (next : Except Fault Sweep) (same : Sweep.step body sweep c.toUInt8 = next) :
          (String.utf8EncodeChar c).foldlM (Sweep.step body) sweep = next := by
        rw [utf8EncodeChar_of_isAscii ascii, List.foldlM_cons, same]
        cases next <;> rfl
      rw [single _ rfl]
      by_cases opens : chars.quoting = .outside ∧ c = '{'
      · obtain ⟨outside, rfl⟩ := opens
        exact follows.opener outside
      · by_cases closes : chars.quoting = .outside ∧ c = '}'
        · obtain ⟨outside, rfl⟩ := closes
          exact follows.closer outside whole
        · have kept : chars.step c = chars.keep c := by
            rw [ObjectSweep.step, if_neg opens, if_neg closes]
          have apart {mark : Char} (inAscii : isAscii mark = true)
              (other : ¬ (chars.quoting = .outside ∧ c = mark)) :
              ¬ (sweep.quoting = .outside ∧ c.toUInt8 = mark.toUInt8) := by
            rwa [follows.quoting, toUInt8_inj ascii inAscii]
          have passed : Sweep.step body sweep c.toUInt8 = .ok (sweep.advance c.toUInt8) := by
            rw [Sweep.step, if_neg (apart rfl opens), if_neg (apart rfl closes)]
          have keeps := follows.keep c
          rw [← Quoting.stepByte_of_isAscii _ ascii, utf8Size_of_isAscii ascii] at keeps
          exact ⟨_, passed, kept ▸ keeps⟩

theorem Follows.run (follows : Follows front sweep chars) (text : List Char) :
    ∃ next, (bytes text).foldlM (Sweep.step (front ++ text)) sweep = .ok next ∧
      Follows (front ++ text) next (text.foldl ObjectSweep.step chars) := by
  induction text generalizing front sweep chars with
  | nil => exact ⟨sweep, rfl, by rwa [List.append_nil]⟩
  | cons c text ih =>
      have whole : front ++ c :: text = front ++ c :: text := rfl
      obtain ⟨next, steps, followsNext⟩ := follows.step whole
      obtain ⟨last, runs, followsLast⟩ := ih followsNext
      rw [List.append_assoc, List.singleton_append] at runs followsLast
      exact ⟨last, by rw [bytes_cons, List.foldlM_append, steps, Fault.ok_bind, runs], followsLast⟩

end

theorem objects_eq_ok (text : List Char) : objects text = .ok (Scan.objects text) := by
  have start : Follows [] {} {} :=
    ⟨rfl, rfl, rfl, rfl, fun _ => rfl, fun inside => absurd rfl inside⟩
  obtain ⟨sweep, runs, follows⟩ := start.run text
  rw [objects]
  have runs : (bytes text).foldlM (Sweep.step text) {} = .ok sweep := runs
  rw [runs, Fault.ok_bind, follows.found, Scan.objects]

end Offset

end FieldMenu.Scan
