import FieldMenu.Json.Read
import FieldMenu.Pattern.Cursor
import FieldMenu.Pattern.Tree

namespace FieldMenu.Pattern

def isMeta (c : Char) : Bool :=
  "\\.+*?()|[]\x7b\x7d^$#&-~".toList.contains c

def isEscapable (c : Char) : Bool :=
  isMeta c || (c.toNat < 0x80 && !c.isAlphanum && c != '<' && c != '>')

def controlOf? (c : Char) : Option Char :=
  [ ('a', '\x07'), ('f', '\x0c'), ('t', '\t'), ('n', '\n'), ('r', '\r'), ('v', '\x0b') ].lookup c

def assertionOf? (c : Char) : Option Assertion :=
  [ ('A', Assertion.textStart), ('z', .textEnd), ('b', .word .either), ('B', .word .neither),
    ('<', .word .start), ('>', .word .stop) ].lookup c

/-- The class that a letter behind a backslash stands for, and whether what it names is left out. -/
def shorthandOf? (c : Char) : Option (NamedClass × Bool) :=
  [ ('d', NamedClass.digit, false), ('D', .digit, true), ('s', .space, false), ('S', .space, true),
    ('w', .word, false), ('W', .word, true) ].lookup c

def isHexDigit (c : Char) : Bool :=
  (Json.hexValue? c).isSome

def characterOf? (digits : List Char) : Option Char :=
  let code := digits.foldl (fun n c => 16 * n + (Json.hexValue? c).getD 0) 0
  if code.isValidChar then some (Char.ofNat code) else none

def readHexDigits (spaced : Bool) :
    (count : Nat) → (read : List Char) → Cursor → Except Fault (List Char × Cursor)
  | 0, read, cursor => .ok (read.reverse, cursor)
  | count + 1, read, cursor =>
      match cursor.rest with
      | [] => .error { cause := .escapeUnexpectedEnd, span := cursor.emptySpan }
      | c :: _ =>
          if isHexDigit c then readHexDigits spaced count (c :: read) (cursor.advance spaced)
          else .error { cause := .escapeHexInvalidDigit, span := cursor.nextSpan }

def readHexBraced (spaced : Bool) (start : Place) :
    (fuel : Nat) → (read : List Char) → Cursor → Except Fault (List Char × Cursor)
  | 0, _, cursor => .error { cause := .escapeUnexpectedEnd, span := cursor.spanFrom start }
  | fuel + 1, read, cursor =>
      match cursor.rest with
      | [] => .error { cause := .escapeUnexpectedEnd, span := cursor.spanFrom start }
      | c :: _ =>
          if c = '\x7d' then .ok (read.reverse, cursor)
          else if isHexDigit c then
            readHexBraced spaced start fuel (c :: read) (cursor.advance spaced)
          else .error { cause := .escapeHexInvalidDigit, span := cursor.nextSpan }

def readHex (spaced : Bool) (start : Place) (cursor : Cursor) : Except Fault (Atom × Cursor) := do
  let count := if cursor.isAt 'x' then 2 else if cursor.isAt 'u' then 4 else 8
  let first := cursor.advance spaced
  if first.isAt '\x7b' then
    let (digits, last) ←
      readHexBraced spaced first.place first.rest.length [] (first.advance spaced)
    let behind := last.advance spaced
    if digits.isEmpty then
      throw { cause := .escapeHexEmpty, span := behind.spanFrom first.place }
    match characterOf? digits with
    | some char => pure (.letter { span := behind.spanFrom start, char }, behind)
    | none => throw { cause := .escapeHexInvalid, span := last.spanFrom first.next.place }
  else
    let (digits, behind) ← readHexDigits spaced count [] first
    match characterOf? digits with
    | some char =>
        pure (.letter { span := behind.spanFrom start, char, isByte := count == 2 }, behind)
    | none => throw { cause := .escapeHexInvalid, span := behind.spanFrom first.place }

def readPropertyName (spaced : Bool) :
    (fuel : Nat) → (read : List Char) → Cursor → Except Fault (List Char × Cursor)
  | 0, _, cursor => .error { cause := .escapeUnexpectedEnd, span := cursor.emptySpan }
  | fuel + 1, read, cursor =>
      match cursor.rest with
      | [] => .error { cause := .escapeUnexpectedEnd, span := cursor.emptySpan }
      | c :: _ =>
          if c = '\x7d' then .ok (read.reverse, cursor.next)
          else readPropertyName spaced fuel (c :: read) (cursor.advance spaced)

def readProperty (spaced : Bool) (start : Place) (cursor : Cursor) :
    Except Fault (Atom × Cursor) := do
  let negated := cursor.isAt 'P'
  let first := cursor.advance spaced
  match first.rest with
  | [] => throw { cause := .escapeUnexpectedEnd, span := first.emptySpan }
  | c :: _ =>
      if c = '\x7b' then
        let (name, behind) ←
          readPropertyName spaced first.rest.length [] (first.advance spaced)
        pure (.property (behind.spanFrom start) name negated, behind)
      else if c = '\\' then throw { cause := .propertyInvalid, span := first.nextSpan }
      else
        let behind := first.advance spaced
        pure (.property (behind.spanFrom start) [c] negated, behind)

def wordEdgeOf? (name : List Char) : Option WordEdge :=
  [ ("start", WordEdge.start), ("end", .stop), ("start-half", .startHalf),
    ("end-half", .stopHalf) ].lookup (String.ofList name)

def isWordEdgeChar (c : Char) : Bool :=
  c.isAlpha || c == '-'

def readWordEdgeName (spaced : Bool) :
    (fuel : Nat) → (read : List Char) → Cursor → List Char × Cursor
  | 0, read, cursor => (read.reverse, cursor)
  | fuel + 1, read, cursor =>
      match cursor.rest with
      | [] => (read.reverse, cursor)
      | c :: _ =>
          if isWordEdgeChar c then
            readWordEdgeName spaced fuel (c :: read) (cursor.advance spaced)
          else (read.reverse, cursor)

/-- The sort of a word boundary, from the brace behind it on.  A brace without a name in it belongs
to a repetition. -/
def readWordEdge? (spaced : Bool) (start : Place) (brace : Cursor) :
    Except Fault (Option (WordEdge × Cursor)) := do
  let first := brace.advance spaced
  match first.rest with
  | [] => throw { cause := .wordEdgeUnexpectedEnd, span := first.spanFrom start }
  | c :: _ =>
      if isWordEdgeChar c then
        let (name, last) := readWordEdgeName spaced first.rest.length [] first
        if last.isAt '\x7d' then
          match wordEdgeOf? name with
          | some edge => pure (some (edge, last.next))
          | none => throw { cause := .wordEdgeUnrecognized, span := last.spanFrom first.place }
        else throw { cause := .wordEdgeUnclosed, span := last.spanFrom brace.place }
      else pure none

def readAssertion (spaced : Bool) (start : Place) (assertion : Assertion) (behind : Cursor) :
    Except Fault (Atom × Cursor) := do
  if assertion = .word .either ∧ behind.isAt '\x7b' then
    match ← readWordEdge? spaced start behind with
    | some (edge, behind) => pure (.assertion (behind.spanFrom start) (.word edge), behind)
    | none => pure (.assertion (behind.spanFrom start) assertion, behind)
  else pure (.assertion (behind.spanFrom start) assertion, behind)

def readEscape (spaced : Bool) (cursor : Cursor) : Except Fault (Atom × Cursor) :=
  let start := cursor.place
  let escaped := cursor.next
  match escaped.rest with
  | [] => .error { cause := .escapeUnexpectedEnd, span := escaped.spanFrom start }
  | c :: _ =>
      let behind := escaped.next
      let span := behind.spanFrom start
      if c.isDigit then .error { cause := .backreference, span }
      else if c = 'x' ∨ c = 'u' ∨ c = 'U' then readHex spaced start escaped
      else if c = 'p' ∨ c = 'P' then readProperty spaced start escaped
      else if isEscapable c then .ok (.letter { span, char := c }, behind)
      else
        match shorthandOf? c, controlOf? c, assertionOf? c with
        | some (name, negated), _, _ => .ok (.shorthand span name negated, behind)
        | _, some char, _ => .ok (.letter { span, char }, behind)
        | _, _, some assertion => readAssertion spaced start assertion behind
        | none, none, none => .error { cause := .escapeUnrecognized, span }

end FieldMenu.Pattern
