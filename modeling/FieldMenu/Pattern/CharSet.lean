import FieldMenu.Pattern.Tree

namespace FieldMenu.Pattern

def ordinal (c : Char) : Nat :=
  if c.toNat < 0xD800 then c.toNat else c.toNat - 0x800

def lastOrdinal : Nat :=
  0x10FFFF - 0x800

/-- A set of characters: ranges from a first to a last number, in increasing order, with a number
between any two of them. -/
structure CharSet where
  ranges : List (Nat × Nat)
deriving DecidableEq, Repr

namespace CharSet

def none : CharSet :=
  { ranges := [] }

def all : CharSet :=
  { ranges := [(0, lastOrdinal)] }

def contains (set : CharSet) (c : Char) : Bool :=
  set.ranges.any fun range => range.1 ≤ ordinal c && ordinal c ≤ range.2

def isEmpty (set : CharSet) : Bool :=
  set.ranges.isEmpty

/-- The last range before another one that starts no earlier: joined with it where the two touch. -/
def joinRange (before : List (Nat × Nat)) (range : Nat × Nat) : List (Nat × Nat) :=
  match before with
  | [] => [range]
  | last :: rest =>
      if range.1 ≤ last.2 + 1 then (last.1, max last.2 range.2) :: rest
      else range :: last :: rest

def ofRanges (ranges : List (Nat × Nat)) : CharSet :=
  let sorted := ranges.mergeSort fun a b => a.1 ≤ b.1
  { ranges := (sorted.foldl joinRange []).reverse }

def ofRange (first last : Char) : CharSet :=
  .ofRanges [(ordinal first, ordinal last)]

def singleton (c : Char) : CharSet :=
  .ofRange c c

def union (a b : CharSet) : CharSet :=
  .ofRanges (a.ranges ++ b.ranges)

def gaps (next : Nat) : List (Nat × Nat) → List (Nat × Nat)
  | [] => if next ≤ lastOrdinal then [(next, lastOrdinal)] else []
  | (first, last) :: ranges =>
      if next < first then (next, first - 1) :: gaps (last + 1) ranges else gaps (last + 1) ranges

def complement (set : CharSet) : CharSet :=
  { ranges := gaps 0 set.ranges }

def inter (a b : CharSet) : CharSet :=
  (a.complement.union b.complement).complement

def diff (a b : CharSet) : CharSet :=
  a.inter b.complement

def symmDiff (a b : CharSet) : CharSet :=
  (a.union b).diff (a.inter b)

def foldCase (set : CharSet) : CharSet :=
  let lower := (set.inter (.ofRange 'A' 'Z')).ranges.map fun range =>
    (range.1 + 32, range.2 + 32)
  let upper := (set.inter (.ofRange 'a' 'z')).ranges.map fun range =>
    (range.1 - 32, range.2 - 32)
  .ofRanges (set.ranges ++ lower ++ upper)

end CharSet

def NamedClass.set : NamedClass → CharSet
  | .alnum => ofChars [('0', '9'), ('A', 'Z'), ('a', 'z')]
  | .alpha => ofChars [('A', 'Z'), ('a', 'z')]
  | .ascii => ofChars [('\x00', '\x7f')]
  | .blank => ofChars [('\t', '\t'), (' ', ' ')]
  | .cntrl => ofChars [('\x00', '\x1f'), ('\x7f', '\x7f')]
  | .digit => ofChars [('0', '9')]
  | .graph => ofChars [('!', '~')]
  | .lower => ofChars [('a', 'z')]
  | .print => ofChars [(' ', '~')]
  | .punct => ofChars [('!', '/'), (':', '@'), ('[', '\x60'), ('\x7b', '~')]
  | .space => ofChars [('\t', '\r'), (' ', ' ')]
  | .upper => ofChars [('A', 'Z')]
  | .word => ofChars [('0', '9'), ('A', 'Z'), ('_', '_'), ('a', 'z')]
  | .xdigit => ofChars [('0', '9'), ('A', 'F'), ('a', 'f')]
where
  ofChars (ranges : List (Char × Char)) : CharSet :=
    .ofRanges (ranges.map fun range => (ordinal range.1, ordinal range.2))

def ClassOperator.apply : ClassOperator → CharSet → CharSet → CharSet
  | .intersection => .inter
  | .difference => .diff
  | .symmetricDifference => .symmDiff

end FieldMenu.Pattern
