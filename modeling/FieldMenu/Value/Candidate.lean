import FieldMenu.Document.Basic
import FieldMenu.Record.Basic

namespace FieldMenu

open Text

/-- The values, each once regardless of letter case, in the spelling and at the place of its first
occurrence. -/
def firstSpellings (values : List String) : List String :=
  values.foldl
    (fun seen value =>
      if seen.any fun known => sameIgnoringCase known value then seen else seen ++ [value])
    []

/-- How often values occur, under their lowercase forms. -/
abbrev CountTable := List (String × Nat)

namespace CountTable

def count (table : CountTable) (value : String) : Nat :=
  (table.lookup (lowered value)).getD 0

def increment (key : String) : CountTable → CountTable
  | [] => [(key, 1)]
  | (known, count) :: rest =>
      if known = key then (known, count + 1) :: rest
      else (known, count) :: CountTable.increment key rest

end CountTable

/-- The values met so far, each once regardless of letter case and in the spelling that was met
first, and how often they were met. -/
structure Tally where
  spellings : List String := []
  counts : CountTable := []

namespace Tally

def add (tally : Tally) (value : String) : Tally where
  spellings :=
    if tally.counts.count value = 0 then tally.spellings ++ [value] else tally.spellings
  counts := tally.counts.increment (lowered value)

def ofValues (values : List String) : Tally :=
  values.foldl add {}

end Tally

def fieldTokens (field : String) (records : List Record) : List String :=
  records.flatMap fun record => Token.listOf (record.field? field)

def tokenCounts (tokens : List String) : CountTable :=
  (Tally.ofValues tokens).counts

namespace SortOrder

/-- The order of the lowercase forms, and of the values themselves where those agree. -/
def alphabeticalLe (left right : String) : Bool :=
  let leftKey := lowered left
  let rightKey := lowered right
  leftKey < rightKey || (leftKey == rightKey && left ≤ right)

def countedLe (table : CountTable) (mostFirst : Bool) (left right : String) : Bool :=
  let leftCount := table.count left
  let rightCount := table.count right
  (if mostFirst then rightCount < leftCount else leftCount < rightCount) ||
    (leftCount == rightCount && alphabeticalLe left right)

/-- Sorts values.  The orders by count fall back on the alphabetical one where there are no
counts. -/
def sort (order : SortOrder) (counts : Option CountTable) (values : List String) : List String :=
  match order, counts with
  | .unsorted, _ => values
  | .alphabetical, _ | .mostCommon, none | .leastCommon, none => values.mergeSort alphabeticalLe
  | .reverseAlphabetical, _ => values.mergeSort fun left right => alphabeticalLe right left
  | .mostCommon, some table => values.mergeSort (countedLe table true)
  | .leastCommon, some table => values.mergeSort (countedLe table false)

end SortOrder

namespace Item

def candidates (item : Item) (order : SortOrder) (library : List Record) : List String :=
  match item.valueSource with
  | .config => order.sort none item.values
  | .field =>
      let tokens := fieldTokens item.fieldName library
      order.sort (some (tokenCounts tokens)) (Tally.ofValues tokens).spellings

end Item

end FieldMenu
