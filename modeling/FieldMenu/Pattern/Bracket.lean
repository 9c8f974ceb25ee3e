import FieldMenu.Pattern.Escape

namespace FieldMenu.Pattern

def Atom.toClass : Atom → Except Fault ClassTree
  | .letter written => .ok (.letter written)
  | .shorthand span name negated => .ok (.shorthand span name negated)
  | .property span name negated => .ok (.property span name negated)
  | .dot span | .assertion span _ => .error { cause := .classEscapeInvalid, span }

def Atom.toLetter : Atom → Except Fault Letter
  | .letter written => .ok written
  | atom => .error { cause := .classRangeLiteral, span := atom.span }

structure Union where
  start : Place
  items : List ClassTree := []
deriving Repr

namespace Union

def push (union : Union) (item : ClassTree) : Union :=
  { union with items := item :: union.items }

def toClass (union : Union) : ClassTree :=
  match union.items.reverse with
  | [] => .empty (.point union.start)
  | [item] => item
  | first :: rest =>
      let last := rest.getLastD first
      .union { start := first.span.start, stop := last.span.stop } (first :: rest)

end Union

/-- What waits for the class that is being read: the union around its bracket, or the left side of
an operator. -/
inductive ClassFrame where
  | bracket (outer : Union) (span : Span) (negated : Bool)
  | operator (operator : ClassOperator) (left : ClassTree)
deriving Repr

structure ClassReader where
  cursor : Cursor
  union : Union
  frames : List ClassFrame := []
deriving Repr

def combine (right : ClassTree) : List ClassFrame → ClassTree × List ClassFrame
  | .operator operator left :: frames =>
      (.combined { start := left.span.start, stop := right.span.stop } operator left right, frames)
  | frames => (right, frames)

def unclosedClass : List ClassFrame → Fault
  | [] => { cause := .classUnclosed, span := .point {} }
  | .bracket _ span _ :: _ => { cause := .classUnclosed, span }
  | .operator _ _ :: frames => unclosedClass frames

def classNamed? (name : List Char) : Option NamedClass :=
  [ ("alnum", NamedClass.alnum), ("alpha", .alpha), ("ascii", .ascii), ("blank", .blank),
    ("cntrl", .cntrl), ("digit", .digit), ("graph", .graph), ("lower", .lower), ("print", .print),
    ("punct", .punct), ("space", .space), ("upper", .upper), ("word", .word),
    ("xdigit", .xdigit) ].lookup (String.ofList name)

def readNamedClass? (cursor : Cursor) : Option (ClassTree × Cursor) := do
  let first ← cursor.after? "[:"
  let negated := first.isAt '^'
  let first := if negated then first.next else first
  let name := first.rest.takeWhile fun c => c != ':'
  let behind ← (first.skip name.length).after? ":]"
  let known ← classNamed? name
  some (.named (behind.spanFrom cursor.place) known negated, behind)

def readClassAtom (spaced : Bool) (cursor : Cursor) : Except Fault (Atom × Cursor) :=
  match cursor.rest with
  | [] => .error { cause := .classUnclosed, span := cursor.emptySpan }
  | c :: _ =>
      if c = '\\' then readEscape spaced cursor
      else .ok (.letter { span := cursor.nextSpan, char := c }, cursor.next)

/-- An item of a class, or a range.  A hyphen before the closing bracket or before another hyphen
makes no range. -/
def readRange (spaced : Bool) (unclosed : Fault) (cursor : Cursor) :
    Except Fault (ClassTree × Cursor) := do
  let (first, cursor) ← readClassAtom spaced cursor
  let cursor := cursor.skipSpace spaced
  if cursor.atEnd then throw unclosed
  let second := cursor.second? spaced
  if !cursor.isAt '-' || second == some ']' || second == some '-' then
    pure (← first.toClass, cursor)
  else
    let cursor := cursor.advance spaced
    if cursor.atEnd then throw unclosed
    let (last, cursor) ← readClassAtom spaced cursor
    let span := { start := first.span.start, stop := last.span.stop }
    let first ← first.toLetter
    let last ← last.toLetter
    if first.char ≤ last.char then pure (.range span first last, cursor)
    else throw { cause := .classRangeInvalid, span }

def readHyphens (spaced : Bool) (unclosed : Fault) :
    (fuel : Nat) → Union → Cursor → Except Fault (Union × Cursor)
  | 0, union, cursor => .ok (union, cursor)
  | fuel + 1, union, cursor =>
      if cursor.isAt '-' then
        let letter := { span := cursor.nextSpan, char := '-' }
        let cursor := cursor.advance spaced
        if cursor.atEnd then .error unclosed
        else readHyphens spaced unclosed fuel (union.push (.letter letter)) cursor
      else .ok (union, cursor)

/-- The start of a class: its bracket, a circumflex, and what stands for itself only there. -/
def openClass (spaced : Bool) (outer : Union) (frames : List ClassFrame) (bracket : Cursor) :
    Except Fault ClassReader := do
  let start := bracket.place
  let unclosed (cursor : Cursor) : Fault :=
    { cause := .classUnclosed, span := cursor.spanFrom start }
  let cursor := bracket.advance spaced
  if cursor.atEnd then throw (unclosed cursor)
  let negated := cursor.isAt '^'
  let cursor := if negated then cursor.advance spaced else cursor
  if cursor.atEnd then throw (unclosed cursor)
  let (union, cursor) ←
    readHyphens spaced (unclosed bracket) cursor.rest.length { start := cursor.place } cursor
  if union.items.isEmpty && cursor.isAt ']' then
    let union := union.push (.letter { span := cursor.nextSpan, char := ']' })
    let cursor := cursor.advance spaced
    if cursor.atEnd then throw (unclosed cursor)
    pure { cursor, union, frames := .bracket outer (cursor.spanFrom start) negated :: frames }
  else
    pure { cursor, union, frames := .bracket outer (cursor.spanFrom start) negated :: frames }

namespace ClassReader

def operate (reader : ClassReader) (operator : ClassOperator) : ClassReader :=
  let (left, frames) := combine reader.union.toClass reader.frames
  let cursor := reader.cursor.skip 2
  { cursor, union := { start := cursor.place }, frames := .operator operator left :: frames }

/-- Goes behind a closing bracket.  The outermost one ends the class. -/
def close (reader : ClassReader) : Except Fault (ClassReader ⊕ Tree × Cursor) :=
  let (inner, frames) := combine reader.union.toClass reader.frames
  let cursor := reader.cursor.next
  match frames with
  | .bracket outer opened negated :: frames =>
      let span := cursor.spanFrom opened.start
      if frames.isEmpty then .ok (.inr (.bracketed span negated inner, cursor))
      else
        .ok (.inl { cursor, frames, union := outer.push (.bracketed span negated inner) })
  | _ => .error (unclosedClass frames)

def step (spaced : Bool) (reader : ClassReader) :
    Except Fault (ClassReader ⊕ Tree × Cursor) := do
  let cursor := reader.cursor.skipSpace spaced
  let reader := { reader with cursor }
  match cursor.rest with
  | [] => throw (unclosedClass reader.frames)
  | '[' :: _ =>
      match if reader.frames.isEmpty then none else readNamedClass? cursor with
      | some (item, cursor) =>
          pure (.inl { reader with cursor, union := reader.union.push item })
      | none => pure (.inl (← openClass spaced reader.union reader.frames cursor))
  | ']' :: _ => reader.close
  | '&' :: '&' :: _ => pure (.inl (reader.operate .intersection))
  | '-' :: '-' :: _ => pure (.inl (reader.operate .difference))
  | '~' :: '~' :: _ => pure (.inl (reader.operate .symmetricDifference))
  | _ => do
      let (item, cursor) ← readRange spaced (unclosedClass reader.frames) cursor
      pure (.inl { reader with cursor, union := reader.union.push item })

/-- Reads a class to its end.  Every step goes behind a character. -/
def run (spaced : Bool) : (fuel : Nat) → ClassReader → Except Fault (Tree × Cursor)
  | 0, reader => .error (unclosedClass reader.frames)
  | fuel + 1, reader => do
      match ← reader.step spaced with
      | .inl reader => reader.run spaced fuel
      | .inr done => pure done

end ClassReader

def readBracketed (spaced : Bool) (cursor : Cursor) : Except Fault (Tree × Cursor) :=
  ({ cursor, union := { start := cursor.place } } : ClassReader).run spaced
    (cursor.rest.length + 1)

end FieldMenu.Pattern
