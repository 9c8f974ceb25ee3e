import FieldMenu.Pattern.Fault
import FieldMenu.Pattern.Shape

/-! A mode holds to the end of the group around it, also in the branches that follow. -/

namespace FieldMenu.Pattern

structure Mode where
  caseless : Bool := false
  multiLine : Bool := false
  dotAll : Bool := false
  crlf : Bool := false
  unicode : Bool := true
deriving DecidableEq, Repr

namespace Mode

def set (mode : Mode) : Flag × Bool → Mode
  | (.caseless, on) => { mode with caseless := on }
  | (.multiLine, on) => { mode with multiLine := on }
  | (.dotAll, on) => { mode with dotAll := on }
  | (.crlf, on) => { mode with crlf := on }
  | (.unicode, on) => { mode with unicode := on }
  | (.swapGreed, _) | (.spaced, _) => mode

def setAll (mode : Mode) (flags : Flags) : Mode :=
  flags.foldl set mode

def look (mode : Mode) : Assertion → Look
  | .textStart => .textStart
  | .textEnd => .textEnd
  | .lineStart => if mode.multiLine then .lineStart mode.crlf else .textStart
  | .lineEnd => if mode.multiLine then .lineEnd mode.crlf else .textEnd
  | .word edge => .word edge mode.unicode

def dot (mode : Mode) : CharSet :=
  if mode.dotAll then .all
  else if mode.crlf then ((CharSet.singleton '\n').union (.singleton '\r')).complement
  else (CharSet.singleton '\n').complement

end Mode

def propertyLetter? (c : Char) : Option Char :=
  if c = ' ' ∨ c = '_' ∨ c = '-' ∨ 0x7F < c.toNat then none else some c.toLower

/-- The name of a property without what does not count in it, such as `is` at its start. -/
def propertyKey (name : List Char) : String :=
  let startsWithIs := (name.take 2).map Char.toLower == ['i', 's']
  let key := (if startsWithIs then name.drop 2 else name).filterMap propertyLetter?
  String.ofList (if startsWithIs && key == ['c'] then ['i', 's', 'c'] else key)

/-- The fault of a class by property.  No property is known; the names that could be those of a
category are looked for among its values. -/
def propertyFault (mode : Mode) (span : Span) (name : List Char) : Fault :=
  if !mode.unicode then { cause := .unicodeNotAllowed, span }
  else if ["cf", "sc", "lc"].contains (propertyKey name) then
    { cause := .propertyValueNotFound, span }
  else { cause := .propertyNotFound, span }

/-- The characters of a shorthand.  Those of Unicode are not known, and without it what is left out
goes beyond text. -/
def shorthandSet (mode : Mode) (span : Span) (name : NamedClass) (negated : Bool) :
    Except Fault CharSet :=
  if mode.unicode then .error { cause := .shorthandNotFound, span }
  else if negated then .error { cause := .beyondText, span }
  else .ok name.set

/-- The characters of a class with case and negation taken into account.  The cases of Unicode are
not known, and without it what is left out goes beyond text. -/
def finishSet (mode : Mode) (span : Span) (negated : Bool) (set : CharSet) :
    Except Fault CharSet :=
  if mode.unicode then
    if mode.caseless && !set.isEmpty then .error { cause := .caseUnavailable, span }
    else .ok (if negated then set.complement else set)
  else if negated then .error { cause := .beyondText, span }
  else .ok (if mode.caseless then set.foldCase else set)

def classChar (mode : Mode) (letter : Letter) : Except Fault Char :=
  if mode.unicode || letter.char.toNat < 0x80 then .ok letter.char
  else if letter.isByte then .error { cause := .beyondText, span := letter.span }
  else .error { cause := .unicodeNotAllowed, span := letter.span }

def operandSet (mode : Mode) (span : Span) (set : CharSet) : Except Fault CharSet :=
  finishSet mode span false set

mutual

def ClassTree.resolve (mode : Mode) : ClassTree → Except Fault CharSet
  | .empty _ => .ok .none
  | .letter written => do
      pure (.singleton (← classChar mode written))
  | .range _ first last => do
      let first ← classChar mode first
      let last ← classChar mode last
      pure (.ofRange first last)
  | .named span name negated => finishSet mode span negated name.set
  | .shorthand span name negated => shorthandSet mode span name negated
  | .property span name _ => .error (propertyFault mode span name)
  | .bracketed span negated inner => do finishSet mode span negated (← inner.resolve mode)
  | .union _ items => ClassTree.resolveAll mode items
  | .combined _ operator left right => do
      let leftSet ← left.resolve mode
      let rightSet ← right.resolve mode
      let rightSet ← operandSet mode right.span rightSet
      let leftSet ← operandSet mode left.span leftSet
      pure (operator.apply leftSet rightSet)

def ClassTree.resolveAll (mode : Mode) : List ClassTree → Except Fault CharSet
  | [] => .ok .none
  | item :: items => do
      let set ← item.resolve mode
      pure (set.union (← ClassTree.resolveAll mode items))

end

def Letter.resolve (mode : Mode) (letter : Letter) : Except Fault Pattern :=
  if mode.unicode then
    if mode.caseless then .error { cause := .caseUnavailable, span := letter.span }
    else .ok (.chars (.singleton letter.char))
  else if letter.isByte && 0x7F < letter.char.toNat then
    .error { cause := .beyondText, span := letter.span }
  else
    let set := CharSet.singleton letter.char
    .ok (.chars (if mode.caseless then set.foldCase else set))

def Atom.resolve (mode : Mode) : Atom → Except Fault Pattern
  | .letter written => written.resolve mode
  | .dot span =>
      if mode.unicode then .ok (.chars mode.dot) else .error { cause := .beyondText, span }
  | .assertion _ condition => .ok (.look (mode.look condition))
  | .shorthand span name negated => do pure (.chars (← shorthandSet mode span name negated))
  | .property span name _ => .error (propertyFault mode span name)

mutual

def Tree.resolve (mode : Mode) : Tree → Except Fault (Pattern × Mode)
  | .empty _ => .ok (.empty, mode)
  | .flags _ settings => .ok (.empty, mode.setAll settings)
  | .atom part => do pure (← part.resolve mode, mode)
  | .bracketed span negated inner => do
      pure (.chars (← finishSet mode span negated (← inner.resolve mode)), mode)
  | .repetition _ least most inner => do
      let (inner, mode) ← inner.resolve mode
      pure (inner.times least most, mode)
  | .group _ kind inner => do
      let (inner, _) ← inner.resolve (mode.setAll kind.flags)
      match kind with
      | .capturing => pure (.group inner, mode)
      | .plain _ => pure (inner, mode)
  | .alternation _ branches => do
      let (branches, mode) ← Tree.resolveAll mode branches
      pure (.choice branches, mode)
  | .concat _ parts => do
      let (parts, mode) ← Tree.resolveAll mode parts
      pure (inOrder parts, mode)

def Tree.resolveAll (mode : Mode) : List Tree → Except Fault (List Pattern × Mode)
  | [] => .ok ([], mode)
  | tree :: trees => do
      let (pattern, mode) ← tree.resolve mode
      let (patterns, mode) ← Tree.resolveAll mode trees
      pure (pattern :: patterns, mode)

end

end FieldMenu.Pattern
