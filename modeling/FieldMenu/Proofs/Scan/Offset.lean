import FieldMenu.Proofs.Scan.Slice
import FieldMenu.Scan.Array

/-!
The scanner over bytes: places are byte offsets, and a part cut out between two of them may be refused.
-/

namespace FieldMenu.Scan

open Text

def Quoting.stepByte : Quoting → UInt8 → Quoting
  | .outside, b => if b = '"'.toUInt8 then .inside else .outside
  | .inside, b =>
      if b = '\\'.toUInt8 then .escaped else if b = '"'.toUInt8 then .outside else .inside
  | .escaped, _ => .inside

namespace Offset

def closerOf? (b : UInt8) : Option UInt8 :=
  if b = '['.toUInt8 then some ']'.toUInt8
  else if b = '{'.toUInt8 then some '}'.toUInt8
  else none

/-- The place of the closer that balances an opener already read.  `depth` counts the openers of the
same kind still open inside, and `place` is the offset of the first byte to be read. -/
def closerFrom? (opener closer : UInt8) :
    (depth : Nat) → Quoting → (place : Nat) → List UInt8 → Option Nat
  | _, _, _, [] => none
  | depth, .outside, place, b :: rest =>
      if b = opener then closerFrom? opener closer (depth + 1) .outside (place + 1) rest
      else if b = closer then
        if depth = 0 then some place
        else closerFrom? opener closer (depth - 1) .outside (place + 1) rest
      else closerFrom? opener closer depth (Quoting.stepByte .outside b) (place + 1) rest
  | depth, .inside, place, b :: rest =>
      closerFrom? opener closer depth (Quoting.stepByte .inside b) (place + 1) rest
  | depth, .escaped, place, b :: rest =>
      closerFrom? opener closer depth (Quoting.stepByte .escaped b) (place + 1) rest

def matchingBracket? (text : List Char) (offset : Nat) : Except Fault (Option Nat) :=
  match (bytes text)[offset]? with
  | none => .ok none
  | some opener =>
      match closerOf? opener with
      | none => .ok none
      | some closer => do
          let rest ← bytesFrom (bytes text) (offset + 1)
          .ok (closerFrom? opener closer 0 .outside (offset + 1) rest)

/-- The state of a sweep for objects: `place` is the offset of the byte to be read next, and `start`
that of the opener of the object being read. -/
structure Sweep where
  quoting : Quoting := .outside
  depth : Nat := 0
  start : Nat := 0
  place : Nat := 0
  found : List (List Char) := []

namespace Sweep

def advance (sweep : Sweep) (b : UInt8) : Sweep :=
  { sweep with quoting := sweep.quoting.stepByte b, place := sweep.place + 1 }

def step (body : List Char) (sweep : Sweep) (b : UInt8) : Except Fault Sweep :=
  if sweep.quoting = .outside ∧ b = '{'.toUInt8 then
    .ok
      { sweep.advance b with
        depth := sweep.depth + 1
        start := if sweep.depth = 0 then sweep.place else sweep.start }
  else if sweep.quoting = .outside ∧ b = '}'.toUInt8 then
    match sweep.depth with
    | 0 => .ok (sweep.advance b)
    | 1 => do
        let object ← slice body sweep.start (sweep.place + 1)
        .ok { sweep.advance b with depth := 0, found := object :: sweep.found }
    | depth + 2 => .ok { sweep.advance b with depth := depth + 1 }
  else .ok (sweep.advance b)

end Sweep

def objects (body : List Char) : Except Fault (List (List Char)) := do
  let sweep ← (bytes body).foldlM (Sweep.step body) {}
  .ok sweep.found.reverse

def find? (part : List UInt8) : List UInt8 → Option Nat
  | [] => if part.isEmpty then some 0 else none
  | b :: rest => if part.isPrefixOf (b :: rest) then some 0 else (find? part rest).map (· + 1)

/-- The offset of the quote that opens a key, and the one behind the colon of the member. -/
structure MemberPlace where
  key : Nat
  value : Nat
deriving DecidableEq, Repr

def needle (key : String) : List Char :=
  '"' :: (asciiLowered key.toList ++ ['"'])

theorem byteLength_needle_pos (key : String) : 0 < byteLength (needle key) :=
  byteLength_pos (List.cons_ne_nil _ _)

theorem lt_of_sliceFrom_eq_ok {text behind : List Char} {start found length : Nat}
    (positive : 0 < length) (cut : sliceFrom text (start + found + length) = .ok behind) :
    byteLength text - (start + found + length) < byteLength text - start := by
  obtain ⟨front, rfl, offset⟩ := sliceFrom_eq_ok_iff.mp cut
  rw [byteLength_append]
  omega

/-- Looks for the member from `start` on.  The key is found in `lowered`, the text in lowercase, and
the colon behind it in the text itself. -/
def memberFrom? (text lowered : List Char) (key : String) (start : Nat) :
    Except Fault (Option MemberPlace) :=
  match sliceFrom lowered start with
  | .error fault => .error fault
  | .ok ahead =>
      match find? (bytes (needle key)) (bytes ahead) with
      | none => .ok none
      | some found =>
          match _ : sliceFrom text (start + found + byteLength (needle key)) with
          | .error fault => .error fault
          | .ok behind =>
              if (trimStart behind).head? = some ':' then do
                let gap ← lengthWithout (byteLength behind) (byteLength (trimStart behind))
                .ok (some
                  { key := start + found
                    value := start + found + byteLength (needle key) + gap + 1 })
              else memberFrom? text lowered key (start + found + byteLength (needle key))
termination_by byteLength text - start
decreasing_by exact lt_of_sliceFrom_eq_ok (byteLength_needle_pos key) ‹_›

theorem memberFrom?_eq (text lowered : List Char) (key : String) (start : Nat) :
    memberFrom? text lowered key start = (do
      let ahead ← sliceFrom lowered start
      match find? (bytes (needle key)) (bytes ahead) with
      | none => .ok none
      | some found => do
          let behind ← sliceFrom text (start + found + byteLength (needle key))
          if (trimStart behind).head? = some ':' then do
            let gap ← lengthWithout (byteLength behind) (byteLength (trimStart behind))
            .ok (some
              { key := start + found
                value := start + found + byteLength (needle key) + gap + 1 })
          else memberFrom? text lowered key (start + found + byteLength (needle key))) := by
  rw [memberFrom?]
  split
  · rename_i refused
    rw [refused]
    rfl
  · rename_i ahead cut
    rw [cut, Fault.ok_bind]
    split
    · rfl
    · split
      · rename_i refused
        rw [refused]
        rfl
      · rename_i behind cut
        rw [cut, Fault.ok_bind]

def member? (text : List Char) (key : String) : Except Fault (Option MemberPlace) :=
  memberFrom? text (asciiLowered text) key 0

def valueText? (text : List Char) (key : String) : Except Fault (Option (List Char)) := do
  match ← member? text key with
  | none => .ok none
  | some place =>
      let value ← sliceFrom text place.value
      .ok (some (trimStart value))

/-- The place of the first quote that no backslash takes along. -/
def quoteFrom? : (escaped : Bool) → (place : Nat) → List UInt8 → Option Nat
  | _, _, [] => none
  | true, place, _ :: rest => quoteFrom? false (place + 1) rest
  | false, place, b :: rest =>
      if b = '"'.toUInt8 then some place
      else quoteFrom? (b = '\\'.toUInt8) (place + 1) rest

def closingQuote? (all : List UInt8) (start : Nat) : Option Nat :=
  if start ≤ all.length then quoteFrom? false start (all.drop start) else none

def string? (text : List Char) (key : String) : Except Fault (Option String) := do
  match ← valueText? text key with
  | some ('"' :: content) =>
      match closingQuote? (bytes content) 0 with
      | none => .ok none
      | some last =>
          let raw ← slice content 0 last
          .ok (some (String.ofList (unescape raw)))
  | _ => .ok none

def flag (text : List Char) (key : String) (default : Bool) : Except Fault Bool := do
  match ← valueText? text key with
  | none => .ok default
  | some value =>
      let head := asciiLowered (value.take 5)
      .ok (if "true".toList.isPrefixOf head then true
        else if "false".toList.isPrefixOf head then false
        else default)

/-- The offset behind the digits that a text begins with, and behind a sign in front of them. -/
def digitsEnd : (place : Nat) → List Char → Nat
  | place, [] => place
  | place, c :: rest =>
      if c.isDigit || (place == 0 && c == '-') then digitsEnd (place + c.utf8Size) rest else place

def integer (text : List Char) (key : String) (default : Int) : Except Fault Int := do
  match ← valueText? text key with
  | none => .ok default
  | some value =>
      let digits ← slice value 0 (digitsEnd 0 value)
      .ok ((leadingInteger? digits).getD default)

def valueStart (text : List Char) (place : MemberPlace) : Except Fault Nat := do
  let rest ← sliceFrom text place.value
  let gap ← lengthWithout (byteLength rest) (byteLength (trimStart rest))
  .ok (place.value + gap)

def arrayBody? (text : List Char) (key : String) : Except Fault (Option (List Char)) := do
  match ← member? text key with
  | none => .ok none
  | some place =>
      let start ← valueStart text place
      match ← matchingBracket? text start with
      | none => .ok none
      | some last =>
          let opener ← byteAt (bytes text) start
          if opener = '['.toUInt8 then do
            let body ← slice text (start + 1) last
            .ok (some body)
          else .ok none

theorem quoteFrom?_bounds {escaped : Bool} {place last : Nat} {all : List UInt8}
    (found : quoteFrom? escaped place all = some last) :
    place ≤ last ∧ last < place + all.length := by
  induction all generalizing escaped place with
  | nil => cases escaped <;> cases found
  | cons b all ih =>
      have later {escaped : Bool} (found : quoteFrom? escaped (place + 1) all = some last) :
          place ≤ last ∧ last < place + (b :: all).length := by
        have bounds := ih found
        rw [List.length_cons]
        omega
      cases escaped with
      | true => exact later found
      | false =>
          rw [quoteFrom?] at found
          split at found
          · cases found
            simp
          · exact later found

theorem closingQuote?_bounds {all : List UInt8} {start last : Nat}
    (found : closingQuote? all start = some last) : start ≤ last ∧ last < all.length := by
  rw [closingQuote?] at found
  split at found
  · have bounds := quoteFrom?_bounds found
    rw [List.length_drop] at bounds
    omega
  · cases found

def stringsFrom (body : List Char) (start : Nat) : Except Fault (List String) :=
  match sliceFrom body start with
  | .error fault => .error fault
  | .ok ahead =>
      match find? ['"'.toUInt8] (bytes ahead) with
      | none => .ok []
      | some found =>
          match closed : closingQuote? (bytes body) (start + found + 1) with
          | none => .ok []
          | some last => do
              let raw ← slice body (start + found + 1) last
              let others ← stringsFrom body (last + 1)
              .ok (String.ofList (unescape raw) :: others)
termination_by (bytes body).length - start
decreasing_by
  have bounds := closingQuote?_bounds closed
  omega

theorem stringsFrom_eq (body : List Char) (start : Nat) :
    stringsFrom body start = (do
      let ahead ← sliceFrom body start
      match find? ['"'.toUInt8] (bytes ahead) with
      | none => .ok []
      | some found =>
          match closingQuote? (bytes body) (start + found + 1) with
          | none => .ok []
          | some last => do
              let raw ← slice body (start + found + 1) last
              let others ← stringsFrom body (last + 1)
              .ok (String.ofList (unescape raw) :: others)) := by
  rw [stringsFrom]
  split
  · rename_i refused
    rw [refused]
    rfl
  · rename_i ahead cut
    rw [cut, Fault.ok_bind]
    split
    · rfl
    · split
      · rename_i missing
        rw [missing]
      · rename_i last closed
        rw [closed]

def stringArray (text : List Char) (key : String) : Except Fault (List String) := do
  match ← arrayBody? text key with
  | none => .ok []
  | some body => stringsFrom body 0

/-- The ends of what goes with an array that closes at `last`: one comma beside it goes along. -/
def gap (text : List Char) (place : MemberPlace) (last : Nat) : Except Fault (Nat × Nat) := do
  let after ← sliceFrom text (last + 1)
  match trimStart after with
  | ',' :: following => do
      let behind ← lengthWithout (byteLength text) (byteLength (trimStart following))
      .ok (place.key, behind)
  | _ => do
      let before ← slice text 0 place.key
      if (trimEnd before).getLast? = some ',' then do
        let front ← lengthWithout (byteLength (trimEnd before)) 1
        .ok (front, last + 1)
      else .ok (place.key, last + 1)

def withoutArray (text : List Char) (key : String) : Except Fault (List Char) := do
  match ← member? text key with
  | none => .ok text
  | some place =>
      let start ← valueStart text place
      if (bytes text)[start]? ≠ some '['.toUInt8 then .ok text
      else
        match ← matchingBracket? text start with
        | none => .ok text
        | some last => do
            let ends ← gap text place last
            let removed ← lengthWithout ends.2 ends.1
            let _ ← lengthWithout (byteLength text) removed
            let front ← slice text 0 ends.1
            let behind ← sliceFrom text ends.2
            .ok (front ++ behind)

end Offset

end FieldMenu.Scan
