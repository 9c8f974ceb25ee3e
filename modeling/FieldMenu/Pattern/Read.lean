import FieldMenu.Pattern.Bracket
import FieldMenu.Text.Letter

namespace FieldMenu.Pattern

structure Sequence where
  start : Place
  parts : List Tree := []
deriving Repr

namespace Sequence

def push (sequence : Sequence) (part : Tree) : Sequence :=
  { sequence with parts := part :: sequence.parts }

def toTree (sequence : Sequence) (stop : Place) : Tree :=
  match sequence.parts with
  | [] => .empty { start := sequence.start, stop }
  | [part] => part
  | parts => .concat { start := sequence.start, stop } parts.reverse

end Sequence

/-- What waits for the sequence that is being read.  A group knows how the text around it is read;
the branches of an alternation stand last one first. -/
inductive Frame where
  | group (before : Sequence) (span : Span) (kind : GroupKind) (spaced : Bool)
  | alternation (start : Place) (branches : List Tree)
deriving Repr

structure Reader where
  cursor : Cursor
  spaced : Bool := false
  names : List (List Char × Span) := []
  frames : List Frame := []
  current : Sequence := { start := {} }
deriving Repr

def isNameChar (first : Bool) (c : Char) : Bool :=
  c == '_' || Text.isAlphabetic c ||
    (!first && (c == '.' || c == '[' || c == ']' || Text.isNumeric c))

def readName :
    (fuel : Nat) → (read : List Char) → Cursor → Except Fault (List Char × Cursor)
  | 0, _, cursor => .error { cause := .groupNameUnexpectedEnd, span := cursor.emptySpan }
  | fuel + 1, read, cursor =>
      match cursor.rest with
      | [] => .error { cause := .groupNameUnexpectedEnd, span := cursor.emptySpan }
      | c :: _ =>
          if c = '>' then .ok (read.reverse, cursor)
          else if isNameChar read.isEmpty c then readName fuel (c :: read) cursor.next
          else .error { cause := .groupNameInvalid, span := cursor.nextSpan }

def flagOf? (c : Char) : Option Flag :=
  [ ('i', Flag.caseless), ('m', .multiLine), ('s', .dotAll), ('U', .swapGreed), ('u', .unicode),
    ('R', .crlf), ('x', .spaced) ].lookup c

/-- Flags that are being read, last one first; no flag stands for the sign before those switched
off. -/
abbrev FlagSigns := List (Option Flag × Span)

def flagsOf (signs : FlagSigns) : Flags :=
  let written := signs.reverse.map Prod.fst
  let on := written.takeWhile Option.isSome
  let off := written.drop (on.length + 1)
  on.reduceOption.map (fun flag => (flag, true)) ++ off.reduceOption.map fun flag => (flag, false)

/-- Reads flags up to a colon or a closing parenthesis.  None stands twice. -/
def readFlags :
    (fuel : Nat) → (read : FlagSigns) → Cursor → Except Fault (Flags × Cursor)
  | 0, _, cursor => .error { cause := .flagUnexpectedEnd, span := cursor.emptySpan }
  | fuel + 1, read, cursor =>
      match cursor.rest with
      | [] => .error { cause := .flagUnexpectedEnd, span := cursor.emptySpan }
      | c :: _ =>
          let span := cursor.nextSpan
          if c = ':' ∨ c = ')' then
            match read with
            | (none, span) :: _ => .error { cause := .flagDanglingNegation, span }
            | read => .ok (flagsOf read, cursor)
          else if c = '-' then
            match read.lookup none with
            | some earlier => .error { cause := .flagRepeatedNegation, span, earlier }
            | none => readFlags fuel ((none, span) :: read) cursor.next
          else
            match flagOf? c with
            | none => .error { cause := .flagUnrecognized, span }
            | some flag =>
                match read.lookup (some flag) with
                | some earlier => .error { cause := .flagDuplicate, span, earlier }
                | none => readFlags fuel ((some flag, span) :: read) cursor.next

def readDigits (spaced : Bool) :
    (fuel : Nat) → (read : List Char) → Cursor → List Char × Cursor
  | 0, read, cursor => (read.reverse, cursor)
  | fuel + 1, read, cursor =>
      match cursor.rest with
      | [] => (read.reverse, cursor)
      | c :: _ =>
          if c.isDigit then readDigits spaced fuel (c :: read) (cursor.advance spaced)
          else (read.reverse, cursor)

def readCount (spaced : Bool) (cursor : Cursor) : Except Fault Nat × Cursor :=
  let first := cursor.skipBlanks
  let (digits, behind) := readDigits spaced first.rest.length [] first
  let span := behind.spanFrom first.place
  let number := digits.foldl (fun n c => 10 * n + (c.toNat - '0'.toNat)) 0
  let count : Except Fault Nat :=
    if digits.isEmpty then .error { cause := .repetitionCountDecimalEmpty, span }
    else if 0x100000000 ≤ number then .error { cause := .decimalInvalid, span }
    else .ok number
  (count, behind.skipBlanks)

def readCounts (spaced : Bool) (brace : Cursor) :
    Except Fault (Nat × Option Nat × Cursor) := do
  let unclosed (cursor : Cursor) : Fault :=
    { cause := .repetitionCountUnclosed, span := cursor.spanFrom brace.place }
  let first := brace.advance spaced
  if first.atEnd then throw (unclosed first)
  let (least, cursor) := readCount spaced first
  if cursor.atEnd then throw (unclosed cursor)
  let (least, most, cursor) ←
    if cursor.isAt ',' then
      let cursor := cursor.advance spaced
      if cursor.atEnd then throw (unclosed cursor)
      else if cursor.isAt '\x7d' then pure (← least, none, cursor)
      else
        let least ← least
        let (most, cursor) := readCount spaced cursor
        pure (least, some (← most), cursor)
    else
      let count ← least
      pure (count, some count, cursor)
  if !cursor.isAt '\x7d' then throw (unclosed cursor)
  let behind := cursor.advance spaced
  let behind := if behind.isAt '?' then behind.next else behind
  match most with
  | some count =>
      if count < least then
        throw { cause := .repetitionCountInvalid, span := behind.spanFrom brace.place }
      else pure (least, most, behind)
  | none => pure (least, most, behind)

namespace Reader

def repeatable (reader : Reader) : Except Fault (Tree × Sequence) :=
  match reader.current.parts with
  | [] | .empty _ :: _ | .flags _ _ :: _ =>
      .error { cause := .repetitionMissing, span := reader.cursor.emptySpan }
  | part :: parts => .ok (part, { reader.current with parts })

def putRepetition (reader : Reader) (part : Tree) (before : Sequence) (least : Nat)
    (most : Option Nat) (cursor : Cursor) : Reader :=
  { reader with
    cursor
    current := before.push (.repetition (cursor.spanFrom part.span.start) least most part) }

def repeatBy (reader : Reader) (least : Nat) (most : Option Nat) : Except Fault Reader := do
  let (part, before) ← reader.repeatable
  let behind := reader.cursor.next
  let behind := if behind.isAt '?' then behind.next else behind
  pure (reader.putRepetition part before least most behind)

def repeatCounted (reader : Reader) : Except Fault Reader := do
  let (part, before) ← reader.repeatable
  let (least, most, behind) ← readCounts reader.spaced reader.cursor
  pure (reader.putRepetition part before least most behind)

def alternate (reader : Reader) : Reader :=
  let branch := reader.current.toTree reader.cursor.place
  let frames :=
    match reader.frames with
    | .alternation start branches :: frames => .alternation start (branch :: branches) :: frames
    | frames => .alternation reader.current.start [branch] :: frames
  let cursor := reader.cursor.next
  { reader with cursor, frames, current := { start := cursor.place } }

def openGroup (reader : Reader) (span : Span) (kind : GroupKind) (cursor : Cursor) : Reader :=
  { reader with
    cursor
    spaced := (kind.flags.lookup .spaced).getD reader.spaced
    frames := .group reader.current span kind reader.spaced :: reader.frames
    current := { start := cursor.place } }

def openNamed (reader : Reader) (opening : Span) (cursor : Cursor) : Except Fault Reader := do
  let (name, last) ← readName (cursor.rest.length + 1) [] cursor
  let span := last.spanFrom cursor.place
  if name.isEmpty then throw { cause := .groupNameEmpty, span := .point cursor.place }
  match reader.names.lookup name with
  | some earlier => throw { cause := .groupNameDuplicate, span, earlier }
  | none =>
      let reader := { reader with names := (name, span) :: reader.names }
      pure (reader.openGroup opening .capturing last.next)

def openParenthesis (reader : Reader) : Except Fault Reader := do
  let opening := reader.cursor.nextSpan
  let inner := reader.cursor.advance reader.spaced
  let lookAround := (["?=", "?!", "?<=", "?<!"].map inner.after?).reduceOption
  match lookAround with
  | behind :: _ => throw { cause := .lookAround, span := behind.spanFrom opening.start }
  | [] =>
      match inner.after? "?P<" <|> inner.after? "?<", inner.after? "?" with
      | some name, _ => reader.openNamed opening name
      | none, none => pure (reader.openGroup opening .capturing inner)
      | none, some sign =>
          if sign.atEnd then throw { cause := .groupUnclosed, span := opening }
          let (flags, last) ← readFlags (sign.rest.length + 1) [] sign
          let behind := last.next
          if last.isAt ':' then pure (reader.openGroup opening (.plain flags) behind)
          else if flags.isEmpty then
            throw { cause := .repetitionMissing, span := inner.emptySpan }
          else
            pure
              { reader with
                cursor := behind
                spaced := (flags.lookup .spaced).getD reader.spaced
                current := reader.current.push (.flags (behind.spanFrom opening.start) flags) }

def closeGroup (reader : Reader) : Except Fault Reader :=
  let place := reader.cursor.place
  let branch := reader.current.toTree place
  let cursor := reader.cursor.next
  let close (inner : Tree) : List Frame → Except Fault Reader
    | .group before span kind spaced :: frames =>
        .ok
          { reader with
            cursor, spaced, frames
            current := before.push (.group (cursor.spanFrom span.start) kind inner) }
    | _ => .error { cause := .groupUnopened, span := reader.cursor.nextSpan }
  match reader.frames with
  | .alternation start branches :: frames =>
      close (.alternation { start, stop := place } (branch :: branches).reverse) frames
  | frames => close branch frames

def readAtom (reader : Reader) : Except Fault (Atom × Cursor) :=
  let cursor := reader.cursor
  let span := cursor.nextSpan
  match cursor.rest with
  | [] => .error { cause := .escapeUnexpectedEnd, span := cursor.emptySpan }
  | c :: _ =>
      if c = '\\' then readEscape reader.spaced cursor
      else if c = '.' then .ok (.dot span, cursor.next)
      else if c = '^' then .ok (.assertion span .lineStart, cursor.next)
      else if c = '$' then .ok (.assertion span .lineEnd, cursor.next)
      else .ok (.letter { span, char := c }, cursor.next)

def step (reader : Reader) (next : Char) : Except Fault Reader := do
  if next = '(' then reader.openParenthesis
  else if next = ')' then reader.closeGroup
  else if next = '|' then pure reader.alternate
  else if next = '[' then
    let (part, cursor) ← readBracketed reader.spaced reader.cursor
    pure { reader with cursor, current := reader.current.push part }
  else if next = '?' then reader.repeatBy 0 (some 1)
  else if next = '*' then reader.repeatBy 0 none
  else if next = '+' then reader.repeatBy 1 none
  else if next = '\x7b' then reader.repeatCounted
  else
    let (atom, cursor) ← reader.readAtom
    pure { reader with cursor, current := reader.current.push (.atom atom) }

def finish (reader : Reader) : Except Fault Tree :=
  let place := reader.cursor.place
  let branch := reader.current.toTree place
  let finish (tree : Tree) : List Frame → Except Fault Tree
    | .group _ span _ _ :: _ => .error { cause := .groupUnclosed, span }
    | _ => .ok tree
  match reader.frames with
  | .alternation start branches :: frames =>
      finish (.alternation { start, stop := place } (branch :: branches).reverse) frames
  | frames => finish branch frames

/-- Reads a pattern to its end.  Every step goes behind a character. -/
def run : (fuel : Nat) → Reader → Except Fault Tree
  | 0, reader => reader.finish
  | fuel + 1, reader => do
      let reader := { reader with cursor := reader.cursor.skipSpace reader.spaced }
      match reader.cursor.rest with
      | [] => reader.finish
      | next :: _ => (← reader.step next).run fuel

end Reader

def readTree (text : List Char) : Except Fault Tree :=
  ({ cursor := { rest := text } } : Reader).run (text.length + 1)

end FieldMenu.Pattern
