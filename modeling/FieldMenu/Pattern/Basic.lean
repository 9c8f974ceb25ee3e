import FieldMenu.Pattern.CharSet

/-! A pattern leads from places of a text to places of it. -/

namespace FieldMenu

namespace Pattern

inductive Look where
  | textStart
  | textEnd
  | lineStart (crlf : Bool)
  | lineEnd (crlf : Bool)
  | word (edge : WordEdge) (unicode : Bool)
deriving DecidableEq, Repr

end Pattern

open Pattern in
inductive Pattern where
  | empty
  | chars (set : CharSet)
  | look (look : Look)
  | group (inner : Pattern)
  | repeated (least : Nat) (most : Option Nat) (inner : Pattern)
  | sequence (parts : List Pattern)
  | choice (branches : List Pattern)
deriving Repr, Inhabited

namespace Pattern

structure Surroundings where
  before : Option Char
  after : Option Char
deriving DecidableEq, Repr

/-- The surroundings of every place of a text, where `before` stands before it. -/
def surroundings (before : Option Char) : List Char → List Surroundings
  | [] => [{ before, after := none }]
  | c :: rest => { before, after := some c } :: surroundings (some c) rest

def isWordChar (c : Char) : Bool :=
  c.isAlphanum || c == '_'

def WordEdge.holds (edge : WordEdge) (place : Surroundings) : Bool :=
  let before := place.before.any isWordChar
  let after := place.after.any isWordChar
  match edge with
  | .either => before != after
  | .neither => before == after
  | .start => !before && after
  | .stop => before && !after
  | .startHalf => !before
  | .stopHalf => !after

/-- The place meets the condition.  A carriage return and a line feed make one line end. -/
def Look.holds (look : Look) (place : Surroundings) : Bool :=
  match look with
  | .textStart => place.before.isNone
  | .textEnd => place.after.isNone
  | .lineStart false => place.before.isNone || place.before == some '\n'
  | .lineEnd false => place.after.isNone || place.after == some '\n'
  | .lineStart true =>
      place.before.isNone || place.before == some '\n' ||
        (place.before == some '\r' && place.after != some '\n')
  | .lineEnd true =>
      place.after.isNone || place.after == some '\r' ||
        (place.after == some '\n' && place.before != some '\r')
  | .word edge _ => edge.holds place

/-- A set of places of a text: a mark for every place from the first to the last. -/
abbrev Marks := List Bool

namespace Marks

def advance (set : CharSet) (text : List Char) (marks : Marks) : Marks :=
  false :: List.zipWith (fun mark c => mark && set.contains c) marks text

def keep (look : Look) (text : List Char) (marks : Marks) : Marks :=
  List.zipWith (fun mark place => mark && look.holds place) marks (surroundings none text)

def union (a b : Marks) : Marks :=
  List.zipWith or a b

def iterate (step : Marks → Marks) : Nat → Marks → Marks
  | 0, marks => marks
  | n + 1, marks =>
      let stepped := step marks
      if stepped = marks then marks else iterate step n stepped

end Marks

mutual

def reach (text : List Char) : Pattern → Marks → Marks
  | .empty, marks => marks
  | .chars set, marks => marks.advance set text
  | .look condition, marks => marks.keep condition text
  | .group inner, marks => reach text inner marks
  | .repeated least most inner, marks =>
      let further :=
        match most with
        | some most => most - least
        | none => text.length + 1
      Marks.iterate (fun marks => marks.union (reach text inner marks)) further
        (Marks.iterate (fun marks => reach text inner marks) least marks)
  | .sequence parts, marks => reachAll text parts marks
  | .choice branches, marks => reachAny text branches marks

def reachAll (text : List Char) : List Pattern → Marks → Marks
  | [], marks => marks
  | part :: parts, marks => reachAll text parts (reach text part marks)

def reachAny (text : List Char) : List Pattern → Marks → Marks
  | [], marks => marks.map fun _ => false
  | branch :: branches, marks => (reach text branch marks).union (reachAny text branches marks)

end

def occursIn (pattern : Pattern) (text : List Char) : Bool :=
  (reach text pattern (List.replicate (text.length + 1) true)).any id

end Pattern

end FieldMenu
