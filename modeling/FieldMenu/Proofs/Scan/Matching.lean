import FieldMenu.Proofs.Scan.Balanced
import FieldMenu.Proofs.Scan.Offset
import Mathlib.Data.Nat.Find

namespace FieldMenu.Scan

namespace Quoting

/-- Outside ASCII a byte is like any other, and so is a character. -/
theorem stepByte_of_high (quoting : Quoting) {b : UInt8} (high : 128 ≤ b.toNat) :
    quoting.stepByte b = quoting.step 'a' := by
  have noQuote := ne_toUInt8_of_high high '"' rfl
  have noBackslash := ne_toUInt8_of_high high '\\' rfl
  cases quoting with
  | outside => simp [stepByte, step, noQuote]
  | inside => simp [stepByte, step, noQuote, noBackslash]
  | escaped => rfl

theorem foldl_stepByte_of_high (quoting : Quoting) {high : List UInt8} (filled : high ≠ [])
    (each : ∀ b ∈ high, 128 ≤ b.toNat) : high.foldl stepByte quoting = quoting.step 'a' := by
  induction high generalizing quoting with
  | nil => exact absurd rfl filled
  | cons b high ih =>
      obtain ⟨first, others⟩ := List.forall_mem_cons.mp each
      rw [List.foldl_cons, stepByte_of_high quoting first]
      cases high with
      | nil => rfl
      | cons next high =>
          rw [ih _ (List.cons_ne_nil next high) others]
          cases quoting <;> rfl

theorem stepByte_of_isAscii (quoting : Quoting) {c : Char} (ascii : isAscii c = true) :
    quoting.stepByte c.toUInt8 = quoting.step c := by
  have quote : c.toUInt8 = '"'.toUInt8 ↔ c = '"' := toUInt8_inj ascii rfl
  have backslash : c.toUInt8 = '\\'.toUInt8 ↔ c = '\\' := toUInt8_inj ascii rfl
  cases quoting with
  | outside => simp only [stepByte, step, quote]
  | inside => simp only [stepByte, step, quote, backslash]
  | escaped => rfl

theorem foldl_stepByte_utf8EncodeChar (quoting : Quoting) (c : Char) :
    (String.utf8EncodeChar c).foldl stepByte quoting = quoting.step c := by
  cases ascii : isAscii c with
  | true =>
      rw [utf8EncodeChar_of_isAscii ascii]
      exact stepByte_of_isAscii quoting ascii
  | false =>
      have noQuote := ne_of_not_isAscii ascii '"' rfl
      have noBackslash := ne_of_not_isAscii ascii '\\' rfl
      rw [foldl_stepByte_of_high quoting (utf8EncodeChar_ne_nil c) (le_of_mem_utf8EncodeChar ascii)]
      cases quoting with
      | outside => simp [step, noQuote]
      | inside => simp [step, noQuote, noBackslash]
      | escaped => rfl

theorem foldl_stepByte_bytes (quoting : Quoting) (text : List Char) :
    (bytes text).foldl stepByte quoting = text.foldl step quoting := by
  induction text generalizing quoting with
  | nil => rfl
  | cons c text ih => rw [bytes_cons, List.foldl_append, foldl_stepByte_utf8EncodeChar, ih,
      List.foldl_cons]

end Quoting

theorem closerOf?_isAscii {opener closer : Char} (pair : closerOf? opener = some closer) :
    isAscii opener = true ∧ isAscii closer = true := by
  obtain ⟨rfl, rfl⟩ | ⟨rfl, rfl⟩ := closerOf?_eq_some pair <;> exact ⟨rfl, rfl⟩

namespace Offset

section

variable {opener closer : Char} (openerAscii : isAscii opener = true)
  (closerAscii : isAscii closer = true)
include openerAscii closerAscii

theorem closerFrom?_of_high {high : List UInt8} (each : ∀ b ∈ high, 128 ≤ b.toNat) (depth : Nat)
    (quoting : Quoting) (place : Nat) (rest : List UInt8) :
    closerFrom? opener.toUInt8 closer.toUInt8 depth quoting place (high ++ rest) =
      closerFrom? opener.toUInt8 closer.toUInt8 depth (high.foldl Quoting.stepByte quoting)
        (place + high.length) rest := by
  induction high generalizing quoting place with
  | nil => rfl
  | cons b high ih =>
      obtain ⟨first, others⟩ := List.forall_mem_cons.mp each
      have past := ih others (quoting.stepByte b) (place + 1)
      rw [Nat.add_right_comm] at past
      cases quoting with
      | outside =>
          rw [List.cons_append, closerFrom?, if_neg (ne_toUInt8_of_high first opener openerAscii),
            if_neg (ne_toUInt8_of_high first closer closerAscii)]
          exact past
      | inside | escaped => exact past

theorem closerFrom?_bytes (depth : Nat) (quoting : Quoting) (start : Nat) (read text : List Char) :
    closerFrom? opener.toUInt8 closer.toUInt8 depth quoting (start + byteLength read)
        (bytes text) =
      (enclosed? opener closer depth quoting read text).map fun parts =>
        start + byteLength parts.1 := by
  induction text generalizing depth quoting read with
  | nil => cases quoting <;> rfl
  | cons c text ih =>
      -- Past the character, whatever state it leaves the reader in.
      have past (depth : Nat) (quoting : Quoting) :
          closerFrom? opener.toUInt8 closer.toUInt8 depth quoting
              (start + byteLength read + c.utf8Size) (bytes text) =
            (enclosed? opener closer depth quoting (c :: read) text).map fun parts =>
              start + byteLength parts.1 := by
        rw [← ih, byteLength_cons, Nat.add_assoc, Nat.add_comm c.utf8Size]
      cases ascii : isAscii c with
      | false =>
          rw [bytes_cons,
            closerFrom?_of_high openerAscii closerAscii (le_of_mem_utf8EncodeChar ascii),
            Quoting.foldl_stepByte_utf8EncodeChar, String.length_utf8EncodeChar, past]
          cases quoting with
          | outside =>
              simp only [enclosed?, ne_of_not_isAscii ascii opener openerAscii,
                ne_of_not_isAscii ascii closer closerAscii, if_false]
          | inside | escaped => rfl
      | true =>
          rw [utf8Size_of_isAscii ascii] at past
          rw [bytes_cons, utf8EncodeChar_of_isAscii ascii, List.singleton_append]
          cases quoting with
          | outside =>
              simp only [closerFrom?, enclosed?, toUInt8_inj ascii openerAscii,
                toUInt8_inj ascii closerAscii, Quoting.stepByte_of_isAscii _ ascii, past]
              split
              · rfl
              · split
                · cases depth with
                  | zero => simp
                  | succ depth => rfl
                · rfl
          | inside | escaped =>
              rw [closerFrom?, enclosed?, Quoting.stepByte_of_isAscii _ ascii, past]

end

end Offset

section

variable {opener closer : Char} {text : List Char} {start : Nat}

theorem matchingBracket?_append (pair : closerOf? opener = some closer) (front rest : List Char) :
    matchingBracket? (front ++ opener :: rest) (byteLength front) =
      (enclosed? opener closer 0 .outside [] rest).map fun parts =>
        byteLength front + 1 + byteLength parts.1 := by
  simp only [matchingBracket?, suffixAt?_append, pair]

theorem matchingBracket?_eq_none (noOpener : ∀ opener closer rest,
      closerOf? opener = some closer → suffixAt? start text ≠ some (opener :: rest)) :
    matchingBracket? text start = none := by
  unfold matchingBracket?
  split
  · rename_i opener rest there
    cases pair : closerOf? opener with
    | none => rfl
    | some closer => exact absurd there (noOpener opener closer rest pair)
  · rfl

namespace Offset

theorem closerOf?_toUInt8 (pair : Scan.closerOf? opener = some closer) :
    closerOf? opener.toUInt8 = some closer.toUInt8 := by
  obtain ⟨rfl, rfl⟩ | ⟨rfl, rfl⟩ := closerOf?_eq_some pair <;> rfl

theorem exists_closerOf? {b closing : UInt8} (pair : closerOf? b = some closing) :
    ∃ opener closer, b = opener.toUInt8 ∧ closing = closer.toUInt8 ∧
      Scan.closerOf? opener = some closer := by
  rw [closerOf?] at pair
  split at pair
  · exact ⟨'[', ']', ‹_›, (Option.some.inj pair).symm, rfl⟩
  · split at pair
    · exact ⟨'{', '}', ‹_›, (Option.some.inj pair).symm, rfl⟩
    · cases pair

theorem matchingBracket?_eq_ok (text : List Char) (start : Nat) :
    matchingBracket? text start = .ok (Scan.matchingBracket? text start) := by
  by_cases opens : ∃ opener closer rest, Scan.closerOf? opener = some closer ∧
      suffixAt? start text = some (opener :: rest)
  · obtain ⟨opener, closer, rest, pair, there⟩ := opens
    obtain ⟨openerAscii, closerAscii⟩ := closerOf?_isAscii pair
    have isOpener := (getElem?_bytes_eq_some_iff openerAscii).mpr ⟨rest, there⟩
    obtain ⟨front, rfl, rfl⟩ := suffixAt?_eq_some_iff.mp there
    have behind : bytesFrom (bytes (front ++ opener :: rest)) (byteLength front + 1) =
        .ok (bytes rest) := by
      have split : bytes (front ++ opener :: rest) =
          (bytes front ++ [opener.toUInt8]) ++ bytes rest := by
        rw [bytes_append, bytes_cons, utf8EncodeChar_of_isAscii openerAscii, List.append_assoc]
      have length : byteLength front + 1 = (bytes front ++ [opener.toUInt8]).length := by simp
      rw [split, length, bytesFrom, List.drop_left, if_pos (by simp)]
    have counted := closerFrom?_bytes openerAscii closerAscii 0 .outside (byteLength front + 1) []
      rest
    rw [byteLength_nil, Nat.add_zero] at counted
    simp only [matchingBracket?, isOpener, closerOf?_toUInt8 pair, behind, Fault.ok_bind, counted,
      matchingBracket?_append pair]
  · have noOpener : ∀ opener closer rest, Scan.closerOf? opener = some closer →
        suffixAt? start text ≠ some (opener :: rest) :=
      fun opener closer rest pair there => opens ⟨opener, closer, rest, pair, there⟩
    rw [Scan.matchingBracket?_eq_none noOpener, matchingBracket?]
    cases there : (bytes text)[start]? with
    | none => rfl
    | some b =>
        cases pair : closerOf? b with
        | none => simp only [pair]
        | some closing =>
            obtain ⟨opener, closer, rfl, _, pair⟩ := exists_closerOf? pair
            obtain ⟨rest, there⟩ :=
              (getElem?_bytes_eq_some_iff (closerOf?_isAscii pair).1).mp there
            exact absurd there (noOpener opener closer rest pair)

end Offset

end

def unquoted (b : UInt8) : Quoting → List UInt8 → Nat
  | _, [] => 0
  | quoting, d :: rest =>
      (if quoting = .outside ∧ d = b then 1 else 0) + unquoted b (quoting.stepByte d) rest

/-- The byte at `place` is outside strings, and with it as many closers have been read as openers,
`depth` and one more in front of the bytes included. -/
structure ClosesAt (opener closer : UInt8) (depth : Nat) (quoting : Quoting) (all : List UInt8)
    (place : Nat) : Prop where
  within : place < all.length
  outside : (all.take place).foldl Quoting.stepByte quoting = .outside
  balanced : unquoted closer quoting (all.take (place + 1)) =
    unquoted opener quoting (all.take (place + 1)) + depth + 1

theorem exists_first_succ_iff {P Q : Nat → Prop} (zero : ¬ P 0) (succ : ∀ n, P (n + 1) ↔ Q n)
    {place last : Nat} :
    (∃ n, last = place + n ∧ P n ∧ ∀ k < n, ¬ P k) ↔
      ∃ n, last = place + 1 + n ∧ Q n ∧ ∀ k < n, ¬ Q k := by
  constructor
  · rintro ⟨n, rfl, holds, first⟩
    cases n with
    | zero => exact absurd holds zero
    | succ n =>
        refine ⟨n, by omega, (succ n).mp holds, fun k less there => ?_⟩
        exact first (k + 1) (by omega) ((succ k).mpr there)
  · rintro ⟨n, rfl, holds, first⟩
    refine ⟨n + 1, by omega, (succ n).mpr holds, fun k less there => ?_⟩
    cases k with
    | zero => exact zero there
    | succ k => exact first k (by omega) ((succ k).mp there)

section

variable {opener closer b : UInt8} {depth : Nat} {quoting : Quoting} {rest : List UInt8}

theorem ne_and_stepByte_of_closerOf? (pair : Offset.closerOf? opener = some closer) :
    opener ≠ closer ∧ Quoting.stepByte .outside opener = .outside ∧
      Quoting.stepByte .outside closer = .outside := by
  obtain ⟨opener, closer, rfl, rfl, inText⟩ := Offset.exists_closerOf? pair
  obtain ⟨rfl, rfl⟩ | ⟨rfl, rfl⟩ := closerOf?_eq_some inText <;> decide

theorem closesAt_zero_iff (different : opener ≠ closer) :
    ClosesAt opener closer depth quoting (b :: rest) 0 ↔
      quoting = .outside ∧ b = closer ∧ depth = 0 := by
  constructor
  · rintro ⟨_, outside, balanced⟩
    have outside : quoting = .outside := outside
    simp only [List.take_succ_cons, List.take_zero, unquoted, outside, true_and] at balanced
    by_cases closes : b = closer
    · refine ⟨outside, closes, ?_⟩
      simp only [closes, if_true, different.symm, if_false] at balanced
      omega
    · simp only [closes, if_false] at balanced
      omega
  · rintro ⟨rfl, rfl, rfl⟩
    exact ⟨by simp, rfl, by simp [unquoted, different.symm]⟩

theorem closesAt_succ_iff (place : Nat) :
    ClosesAt opener closer depth quoting (b :: rest) (place + 1) ↔
      place < rest.length ∧
        (rest.take place).foldl Quoting.stepByte (quoting.stepByte b) = .outside ∧
        (if quoting = .outside ∧ b = closer then 1 else 0) +
            unquoted closer (quoting.stepByte b) (rest.take (place + 1)) =
          (if quoting = .outside ∧ b = opener then 1 else 0) +
            unquoted opener (quoting.stepByte b) (rest.take (place + 1)) + depth + 1 := by
  constructor
  · rintro ⟨within, outside, balanced⟩
    exact ⟨Nat.lt_of_succ_lt_succ within, outside, balanced⟩
  · rintro ⟨within, outside, balanced⟩
    exact ⟨Nat.succ_lt_succ within, outside, balanced⟩

theorem closesAt_succ_of_opener (pair : Offset.closerOf? opener = some closer) (place : Nat) :
    ClosesAt opener closer depth .outside (opener :: rest) (place + 1) ↔
      ClosesAt opener closer (depth + 1) .outside rest place := by
  obtain ⟨different, stays, _⟩ := ne_and_stepByte_of_closerOf? pair
  rw [closesAt_succ_iff, stays]
  simp only [different, and_false, if_false, and_self, if_true]
  exact ⟨fun ⟨within, outside, balanced⟩ => ⟨within, outside, by omega⟩,
    fun ⟨within, outside, balanced⟩ => ⟨within, outside, by omega⟩⟩

theorem closesAt_succ_of_closer (pair : Offset.closerOf? opener = some closer) (place : Nat) :
    ClosesAt opener closer (depth + 1) .outside (closer :: rest) (place + 1) ↔
      ClosesAt opener closer depth .outside rest place := by
  obtain ⟨different, _, stays⟩ := ne_and_stepByte_of_closerOf? pair
  rw [closesAt_succ_iff, stays]
  simp only [different.symm, and_false, if_false, and_self, if_true]
  exact ⟨fun ⟨within, outside, balanced⟩ => ⟨within, outside, by omega⟩,
    fun ⟨within, outside, balanced⟩ => ⟨within, outside, by omega⟩⟩

theorem closesAt_succ_of_other (noOpener : ¬ (quoting = .outside ∧ b = opener))
    (noCloser : ¬ (quoting = .outside ∧ b = closer)) (place : Nat) :
    ClosesAt opener closer depth quoting (b :: rest) (place + 1) ↔
      ClosesAt opener closer depth (quoting.stepByte b) rest place := by
  rw [closesAt_succ_iff, if_neg noOpener, if_neg noCloser, Nat.zero_add, Nat.zero_add]
  exact ⟨fun ⟨within, outside, balanced⟩ => ⟨within, outside, balanced⟩,
    fun ⟨within, outside, balanced⟩ => ⟨within, outside, balanced⟩⟩

namespace Offset

theorem closerFrom?_eq_some_iff (pair : closerOf? opener = some closer) {place last : Nat}
    (all : List UInt8) :
    closerFrom? opener closer depth quoting place all = some last ↔
      ∃ n, last = place + n ∧ ClosesAt opener closer depth quoting all n ∧
        ∀ k < n, ¬ ClosesAt opener closer depth quoting all k := by
  have different := (ne_and_stepByte_of_closerOf? pair).1
  induction all generalizing depth quoting place with
  | nil =>
      have empty : closerFrom? opener closer depth quoting place [] = none := by
        cases quoting <;> rfl
      rw [empty]
      refine iff_of_false (by simp) ?_
      rintro ⟨n, _, ⟨within, _, _⟩, _⟩
      exact Nat.not_lt_zero n within
  | cons b rest ih =>
      have zero {depth : Nat} {quoting : Quoting} :
          ClosesAt opener closer depth quoting (b :: rest) 0 ↔
            quoting = .outside ∧ b = closer ∧ depth = 0 := closesAt_zero_iff different
      -- A byte that is neither an opener nor a closer outside strings.
      have other (noOpener : ¬ (quoting = .outside ∧ b = opener))
          (noCloser : ¬ (quoting = .outside ∧ b = closer))
          (step : closerFrom? opener closer depth quoting place (b :: rest) =
            closerFrom? opener closer depth (quoting.stepByte b) (place + 1) rest) :
          closerFrom? opener closer depth quoting place (b :: rest) = some last ↔
            ∃ n, last = place + n ∧ ClosesAt opener closer depth quoting (b :: rest) n ∧
              ∀ k < n, ¬ ClosesAt opener closer depth quoting (b :: rest) k := by
        rw [step, exists_first_succ_iff _ (closesAt_succ_of_other noOpener noCloser)]
        · exact ih
        · exact fun closes => noCloser ⟨(zero.mp closes).1, (zero.mp closes).2.1⟩
      cases quoting with
      | inside | escaped => exact other (by simp) (by simp) rfl
      | outside =>
          by_cases opens : b = opener
          · subst opens
            rw [closerFrom?, if_pos rfl, exists_first_succ_iff _ (closesAt_succ_of_opener pair)]
            · exact ih
            · exact fun closes => different (zero.mp closes).2.1
          · by_cases closes : b = closer
            · subst closes
              rw [closerFrom?, if_neg opens, if_pos rfl]
              cases depth with
              | zero =>
                  rw [if_pos rfl, Option.some.injEq]
                  have here := zero.mpr ⟨rfl, rfl, rfl⟩
                  refine ⟨fun same => ⟨0, same.symm, here, by simp⟩, ?_⟩
                  rintro ⟨n, rfl, _, first⟩
                  cases n with
                  | zero => rfl
                  | succ n => exact absurd here (first 0 (Nat.succ_pos n))
              | succ depth =>
                  rw [if_neg (Nat.succ_ne_zero depth), Nat.add_sub_cancel,
                    exists_first_succ_iff _ (closesAt_succ_of_closer pair)]
                  · exact ih
                  · exact fun closes => Nat.succ_ne_zero depth (zero.mp closes).2.2
            · exact other (by simp [opens]) (by simp [closes]) (by simp [closerFrom?, opens, closes])

end Offset

end

def between (all : List UInt8) (start place : Nat) : List UInt8 :=
  (all.drop (start + 1)).take (place - (start + 1))

/-- For a reader who begins behind the opener at `start`, the byte at `place` is outside strings,
and up to it there are as many closers as openers, the one at `start` included. -/
structure Balances (opener closer : UInt8) (all : List UInt8) (start place : Nat) : Prop where
  later : start < place
  within : place < all.length
  outside : (between all start place).foldl Quoting.stepByte .outside = .outside
  balanced : unquoted closer .outside (between all start (place + 1)) =
    unquoted opener .outside (between all start (place + 1)) + 1

theorem balances_iff {opener closer : UInt8} {all : List UInt8} {start : Nat} (n : Nat) :
    Balances opener closer all start (start + 1 + n) ↔
      ClosesAt opener closer 0 .outside (all.drop (start + 1)) n := by
  have length : start + 1 + n < all.length ↔ n < (all.drop (start + 1)).length := by
    rw [List.length_drop]
    omega
  have here : between all start (start + 1 + n) = (all.drop (start + 1)).take n := by
    rw [between, Nat.add_sub_cancel_left]
  have next : between all start (start + 1 + n + 1) = (all.drop (start + 1)).take (n + 1) := by
    rw [between, Nat.add_assoc, Nat.add_sub_cancel_left]
  constructor
  · rintro ⟨_, within, outside, balanced⟩
    rw [here] at outside
    rw [next] at balanced
    exact ⟨length.mp within, outside, balanced⟩
  · rintro ⟨within, outside, balanced⟩
    refine ⟨by omega, length.mpr within, ?_, ?_⟩
    · rw [here]
      exact outside
    · rw [next]
      exact balanced

/-- The matching bracket is the first place at which the closers balance the openers. -/
theorem matchingBracket?_eq_some_iff {text : List Char} {start last : Nat} :
    matchingBracket? text start = some last ↔
      ∃ opener closer, Offset.closerOf? opener = some closer ∧
        (bytes text)[start]? = some opener ∧ Balances opener closer (bytes text) start last ∧
        ∀ place < last, ¬ Balances opener closer (bytes text) start place := by
  have ok := Offset.matchingBracket?_eq_ok text start
  rw [Offset.matchingBracket?] at ok
  cases there : (bytes text)[start]? with
  | none =>
      simp only [there, Except.ok.injEq] at ok
      simp [← ok]
  | some opener =>
      cases pair : Offset.closerOf? opener with
      | none =>
          simp only [there, pair, Except.ok.injEq] at ok
          refine iff_of_false (by simp [← ok]) ?_
          rintro ⟨other, closer, pair', same, _⟩
          cases same
          rw [pair] at pair'
          cases pair'
      | some closer =>
          have within : start + 1 ≤ (bytes text).length :=
            (List.getElem?_eq_some_iff.mp there).1
          simp only [there, pair, bytesFrom, if_pos within, Fault.ok_bind,
            Except.ok.injEq] at ok
          rw [← ok, Offset.closerFrom?_eq_some_iff pair]
          constructor
          · rintro ⟨n, rfl, closes, first⟩
            refine ⟨opener, closer, pair, rfl, (balances_iff n).mpr closes, ?_⟩
            intro place less balances
            obtain ⟨k, rfl⟩ := Nat.exists_eq_add_of_le (Nat.succ_le_of_lt balances.later)
            exact first k (by omega) ((balances_iff k).mp balances)
          · rintro ⟨_, _, pair', same, balances, first⟩
            cases same
            cases pair.symm.trans pair'
            obtain ⟨n, rfl⟩ := Nat.exists_eq_add_of_le (Nat.succ_le_of_lt balances.later)
            refine ⟨n, rfl, (balances_iff n).mp balances, fun k less closes => ?_⟩
            exact first (start + 1 + k) (by omega) ((balances_iff k).mpr closes)

theorem exists_first {P : Nat → Prop} (somewhere : ∃ n, P n) : ∃ n, P n ∧ ∀ k < n, ¬ P k := by
  classical exact ⟨Nat.find somewhere, Nat.find_spec somewhere, fun _ => Nat.find_min somewhere⟩

theorem matchingBracket?_eq_none_iff {text : List Char} {start : Nat} :
    matchingBracket? text start = none ↔
      (∀ opener, (bytes text)[start]? = some opener → Offset.closerOf? opener = none) ∨
        ∃ opener closer, Offset.closerOf? opener = some closer ∧
          (bytes text)[start]? = some opener ∧
          ∀ place, ¬ Balances opener closer (bytes text) start place := by
  rw [Option.eq_none_iff_forall_ne_some]
  constructor
  · intro never
    cases there : (bytes text)[start]? with
    | none => exact .inl fun opener here => by cases here
    | some opener =>
        cases pair : Offset.closerOf? opener with
        | none =>
            refine .inl fun other here => ?_
            cases here
            exact pair
        | some closer =>
            refine .inr ⟨opener, closer, pair, rfl, fun place balances => ?_⟩
            obtain ⟨last, balances, first⟩ := exists_first ⟨place, balances⟩
            exact never last
              (matchingBracket?_eq_some_iff.mpr ⟨opener, closer, pair, there, balances, first⟩)
  · intro missing last found
    obtain ⟨opener, closer, pair, there, balances, _⟩ := matchingBracket?_eq_some_iff.mp found
    rcases missing with noOpener | ⟨other, otherCloser, otherPair, here, never⟩
    · rw [noOpener opener there] at pair
      cases pair
    · cases there.symm.trans here
      cases pair.symm.trans otherPair
      exact never last balances

end FieldMenu.Scan
