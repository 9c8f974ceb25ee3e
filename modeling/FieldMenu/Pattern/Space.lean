import FieldMenu.Pattern.Basic

/-!
A state takes 32 bytes, a branch out of a state 4 more, a transition by a range of bytes 8 more.
-/

namespace FieldMenu.Pattern

def encodedLength (code : Nat) : Nat :=
  if code < 0x80 then 1 else if code < 0x800 then 2 else if code < 0x10000 then 3 else 4

/-- A first number of the characters that are cut off a range so that the rest is of one length. -/
def lengthCut? (first last : Nat) : Option Nat :=
  [0x80, 0x800, 0x10000].find? fun cut => first < cut && cut ≤ last

/-- Where a range has to be cut so that its characters are all combinations of ranges of bytes. -/
def blockCut? (first last : Nat) : Option Nat :=
  ([1, 2, 3].map fun count =>
      let block := Nat.pow 64 count
      if first / block = last / block then none
      else if first % block ≠ 0 then some ((first / block + 1) * block)
      else if last % block ≠ block - 1 then some (last / block * block)
      else none).reduceOption.head?

def encoded (code : Nat) : (length : Nat) → List Nat
  | 0 => []
  | 1 => [code]
  | 2 => [0x80 + code % 64, 0xC0 + code / 64]
  | 3 => [0x80 + code % 64, 0x80 + code / 64 % 64, 0xE0 + code / 4096]
  | _ => [0x80 + code % 64, 0x80 + code / 64 % 64, 0x80 + code / 4096 % 64, 0xF0 + code / 262144]

def byteRanges : (fuel : Nat) → (first last : Nat) → List (List (Nat × Nat))
  | 0, _, _ => []
  | fuel + 1, first, last =>
      let length := encodedLength first
      let cut := lengthCut? first last <|> if length = 1 then none else blockCut? first last
      match cut with
      | some cut => byteRanges fuel first (cut - 1) ++ byteRanges fuel cut last
      | none => [(encoded first length).zip (encoded last length)]

namespace CharSet

def codeRanges (set : CharSet) : List (Nat × Nat) :=
  set.ranges.flatMap fun range =>
    if range.2 < 0xD800 then [range]
    else if 0xD800 ≤ range.1 then [(range.1 + 0x800, range.2 + 0x800)]
    else [(range.1, 0xD7FF), (0xE000, range.2 + 0x800)]

def space (backward : Bool) (set : CharSet) : Nat :=
  let codes := set.codeRanges
  match codes with
  | [] => 32
  | [(first, last)] =>
      if first = last then 32 * encodedLength first
      else if last < 0x80 then 72
      else spread codes
  | codes => if codes.all fun range => range.2 < 0x80 then 64 + 8 * codes.length else spread codes
where
  /-- The space of characters of several bytes.  Forward, ends that sequences share are shared. -/
  spread (codes : List (Nat × Nat)) : Nat :=
    let sequences := codes.flatMap fun range => byteRanges 100 range.1 range.2
    if backward then 64 + (sequences.map fun bytes => 4 + 32 * bytes.length).foldr (· + ·) 0
    else
      let ends := sequences.flatMap fun bytes =>
        (List.range' 1 (bytes.length - 1)).map bytes.take
      64 + 8 * sequences.length + 40 * ends.eraseDups.length

end CharSet

mutual

def hasWeight : Pattern → Bool
  | .empty | .look _ => false
  | .chars set => !set.isEmpty
  | .group inner => hasWeight inner
  | .repeated least _ inner => least != 0 && hasWeight inner
  | .sequence parts => anyHasWeight parts
  | .choice branches => allHaveWeight branches

def anyHasWeight : List Pattern → Bool
  | [] => false
  | part :: parts => hasWeight part || anyHasWeight parts

def allHaveWeight : List Pattern → Bool
  | [] => true
  | part :: parts => hasWeight part && allHaveWeight parts

end

mutual

def space (backward : Bool) : Pattern → Nat
  | .empty | .look _ => 32
  | .chars set => set.space backward
  | .group inner => space backward inner + if backward then 0 else 64
  | .sequence parts => totalSpace backward parts
  | .choice branches => totalSpace backward branches + 4 * branches.length + 64
  | .repeated least most inner =>
      let once := space backward inner
      match most with
      | none =>
          if least = 0 then once + if hasWeight inner then 40 else 112 else least * once + 40
      | some most =>
          if least = most then least * once
          else if least = 0 ∧ most = 1 then once + 72
          else max 32 (least * once) + 32 + (most - least) * (once + 40)

def totalSpace (backward : Bool) : List Pattern → Nat
  | [] => 0
  | part :: parts => space backward part + totalSpace backward parts

end

def spaceLimit : Nat := 10485760

/-- The automata of the pattern take no more space than they may.  The search for a start and the
end of the match take some of it, and forward the whole match is a group too. -/
def fits (pattern : Pattern) : Bool :=
  pattern.space false + 208 ≤ spaceLimit && pattern.space true + 144 ≤ spaceLimit

end FieldMenu.Pattern
