import FieldMenu.Pattern.Fault
import FieldMenu.Text.Blank

namespace FieldMenu.Pattern

structure Cursor where
  rest : List Char
  place : Place := {}
deriving DecidableEq, Repr

namespace Cursor

def atEnd (cursor : Cursor) : Bool :=
  cursor.rest.isEmpty

def isAt (cursor : Cursor) (c : Char) : Bool :=
  cursor.rest.head? == some c

def next (cursor : Cursor) : Cursor :=
  match cursor.rest with
  | [] => cursor
  | c :: rest => { rest, place := cursor.place.after c }

def skip : Nat → Cursor → Cursor
  | 0, cursor => cursor
  | n + 1, cursor => skip n cursor.next

def after? (cursor : Cursor) (text : String) : Option Cursor :=
  if text.toList.isPrefixOf cursor.rest then some (cursor.skip text.length) else none

def nextSpan (cursor : Cursor) : Span :=
  { start := cursor.place, stop := cursor.next.place }

def spanFrom (cursor : Cursor) (start : Place) : Span :=
  { start, stop := cursor.place }

def emptySpan (cursor : Cursor) : Span :=
  .point cursor.place

def afterFiller (inComment : Bool) (place : Place) : List Char → Cursor
  | [] => { rest := [], place }
  | c :: rest =>
      if inComment then afterFiller (c != '\n') (place.after c) rest
      else if Text.isBlank c then afterFiller false (place.after c) rest
      else if c = '#' then afterFiller true (place.after c) rest
      else { rest := c :: rest, place }

def skipSpace (spaced : Bool) (cursor : Cursor) : Cursor :=
  if spaced then afterFiller false cursor.place cursor.rest else cursor

/-- Goes behind the next character, and in spaced reading behind what counts for nothing too. -/
def advance (spaced : Bool) (cursor : Cursor) : Cursor :=
  cursor.next.skipSpace spaced

def skipBlanks (cursor : Cursor) : Cursor :=
  cursor.skip (cursor.rest.takeWhile Text.isBlank).length

/-- The character after the next one, in spaced reading the first that may count. -/
def second? (spaced : Bool) (cursor : Cursor) : Option Char :=
  if spaced then
    match cursor.rest.tail.dropWhile Text.isBlank with
    | '#' :: rest => (rest.dropWhile Text.isBlank).head?
    | rest => rest.head?
  else cursor.rest.tail.head?

end Cursor

end FieldMenu.Pattern
