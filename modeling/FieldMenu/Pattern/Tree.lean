import FieldMenu.Pattern.Place

namespace FieldMenu.Pattern

structure Letter where
  span : Span
  char : Char
  isByte : Bool := false
deriving DecidableEq, Repr

inductive WordEdge where
  | either
  | neither
  | start
  | stop
  | startHalf
  | stopHalf
deriving DecidableEq, Repr

inductive Assertion where
  | lineStart
  | lineEnd
  | textStart
  | textEnd
  | word (edge : WordEdge)
deriving DecidableEq, Repr

inductive NamedClass where
  | alnum
  | alpha
  | ascii
  | blank
  | cntrl
  | digit
  | graph
  | lower
  | print
  | punct
  | space
  | upper
  | word
  | xdigit
deriving DecidableEq, Repr

inductive Atom where
  | letter (letter : Letter)
  | dot (span : Span)
  | assertion (span : Span) (assertion : Assertion)
  | shorthand (span : Span) (name : NamedClass) (negated : Bool)
  | property (span : Span) (name : List Char) (negated : Bool)
deriving DecidableEq, Repr

def Atom.span : Atom → Span
  | .letter written => written.span
  | .dot span | .assertion span _ | .shorthand span _ _ | .property span _ _ => span

inductive ClassOperator where
  | intersection
  | difference
  | symmetricDifference
deriving DecidableEq, Repr

inductive ClassTree where
  | empty (span : Span)
  | letter (letter : Letter)
  | range (span : Span) (first last : Letter)
  | named (span : Span) (name : NamedClass) (negated : Bool)
  | shorthand (span : Span) (name : NamedClass) (negated : Bool)
  | property (span : Span) (name : List Char) (negated : Bool)
  | bracketed (span : Span) (negated : Bool) (inner : ClassTree)
  | union (span : Span) (items : List ClassTree)
  | combined (span : Span) (operator : ClassOperator) (left right : ClassTree)
deriving Repr, Inhabited

def ClassTree.span : ClassTree → Span
  | .letter written => written.span
  | .empty span | .range span _ _ | .named span _ _ | .shorthand span _ _ | .property span _ _
  | .bracketed span _ _ | .union span _ | .combined span _ _ _ => span

inductive Flag where
  | caseless
  | multiLine
  | dotAll
  | swapGreed
  | unicode
  | crlf
  | spaced
deriving DecidableEq, Repr

abbrev Flags := List (Flag × Bool)

inductive GroupKind where
  | capturing
  | plain (flags : Flags)
deriving DecidableEq, Repr

def GroupKind.flags : GroupKind → Flags
  | .capturing => []
  | .plain flags => flags

inductive Tree where
  | empty (span : Span)
  | flags (span : Span) (flags : Flags)
  | atom (atom : Atom)
  | bracketed (span : Span) (negated : Bool) (inner : ClassTree)
  | repetition (span : Span) (least : Nat) (most : Option Nat) (inner : Tree)
  | group (span : Span) (kind : GroupKind) (inner : Tree)
  | alternation (span : Span) (branches : List Tree)
  | concat (span : Span) (parts : List Tree)
deriving Repr, Inhabited

def Tree.span : Tree → Span
  | .atom part => part.span
  | .empty span | .flags span _ | .bracketed span _ _ | .repetition span _ _ _ | .group span _ _
  | .alternation span _ | .concat span _ => span

end FieldMenu.Pattern
