import FieldMenu.Pattern.Place
import FieldMenu.Text.Split

namespace FieldMenu.Pattern

inductive Cause where
  | classEscapeInvalid
  | classRangeInvalid
  | classRangeLiteral
  | classUnclosed
  | decimalEmpty
  | decimalInvalid
  | escapeHexEmpty
  | escapeHexInvalid
  | escapeHexInvalidDigit
  | escapeUnexpectedEnd
  | escapeUnrecognized
  | flagDanglingNegation
  | flagDuplicate
  | flagRepeatedNegation
  | flagUnexpectedEnd
  | flagUnrecognized
  | groupNameDuplicate
  | groupNameEmpty
  | groupNameInvalid
  | groupNameUnexpectedEnd
  | groupUnclosed
  | groupUnopened
  | nestLimitExceeded (limit : Nat)
  | repetitionCountInvalid
  | repetitionCountDecimalEmpty
  | repetitionCountUnclosed
  | repetitionMissing
  | wordEdgeUnclosed
  | wordEdgeUnrecognized
  | wordEdgeUnexpectedEnd
  | backreference
  | lookAround
  | propertyInvalid
  | beyondText
  | unicodeNotAllowed
  | propertyNotFound
  | propertyValueNotFound
  | shorthandNotFound
  | caseUnavailable
deriving DecidableEq, Repr

def Cause.message : Cause → String
  | .classEscapeInvalid => "invalid escape sequence found in character class"
  | .classRangeInvalid => "invalid character class range, the start must be <= the end"
  | .classRangeLiteral => "invalid range boundary, must be a literal"
  | .classUnclosed => "unclosed character class"
  | .decimalEmpty => "decimal literal empty"
  | .decimalInvalid => "decimal literal invalid"
  | .escapeHexEmpty => "hexadecimal literal empty"
  | .escapeHexInvalid => "hexadecimal literal is not a Unicode scalar value"
  | .escapeHexInvalidDigit => "invalid hexadecimal digit"
  | .escapeUnexpectedEnd => "incomplete escape sequence, reached end of pattern prematurely"
  | .escapeUnrecognized => "unrecognized escape sequence"
  | .flagDanglingNegation => "dangling flag negation operator"
  | .flagDuplicate => "duplicate flag"
  | .flagRepeatedNegation => "flag negation operator repeated"
  | .flagUnexpectedEnd => "expected flag but got end of regex"
  | .flagUnrecognized => "unrecognized flag"
  | .groupNameDuplicate => "duplicate capture group name"
  | .groupNameEmpty => "empty capture group name"
  | .groupNameInvalid => "invalid capture group character"
  | .groupNameUnexpectedEnd => "unclosed capture group name"
  | .groupUnclosed => "unclosed group"
  | .groupUnopened => "unopened group"
  | .nestLimitExceeded limit =>
      "exceed the maximum number of nested parentheses/brackets (" ++ toString limit ++ ")"
  | .repetitionCountInvalid => "invalid repetition count range, the start must be <= the end"
  | .repetitionCountDecimalEmpty => "repetition quantifier expects a valid decimal"
  | .repetitionCountUnclosed => "unclosed counted repetition"
  | .repetitionMissing => "repetition operator missing expression"
  | .wordEdgeUnclosed =>
      "special word boundary assertion is either unclosed or contains an invalid character"
  | .wordEdgeUnrecognized =>
      "unrecognized special word boundary assertion, valid choices are: start, end, start-half " ++
        "or end-half"
  | .wordEdgeUnexpectedEnd =>
      "found either the beginning of a special word boundary or a bounded repetition on a \\b " ++
        "with an opening brace, but no closing brace"
  | .backreference => "backreferences are not supported"
  | .lookAround => "look-around, including look-ahead and look-behind, is not supported"
  | .propertyInvalid => "invalid Unicode character class"
  | .beyondText => "pattern can match invalid UTF-8"
  | .unicodeNotAllowed => "Unicode not allowed here"
  | .propertyNotFound => "Unicode property not found"
  | .propertyValueNotFound => "Unicode property value not found"
  | .shorthandNotFound =>
      "Unicode-aware Perl class not found (make sure the unicode-perl feature is enabled)"
  | .caseUnavailable =>
      "Unicode-aware case insensitivity matching is not available (make sure the unicode-case " ++
        "feature is enabled)"

/-- A cause and its place, with the earlier place that it clashes with, if there is one. -/
structure Fault where
  cause : Cause
  span : Span
  earlier : Option Span := none
deriving DecidableEq, Repr

namespace Fault

def spans (fault : Fault) : List Span :=
  match fault.earlier with
  | some earlier => [earlier, fault.span]
  | none => [fault.span]

def marks : (column : Nat) → List Span → List Char
  | _, [] => []
  | column, span :: spans =>
      List.replicate (span.start.column - column) ' ' ++ List.replicate span.width '^' ++
        marks (max column span.start.column + span.width) spans

def withoutReturn (line : List Char) : List Char :=
  if line.getLast? = some '\r' then line.dropLast else line

/-- The lines of a text.  A line end closes a line, and does not begin another. -/
def linesOf (text : List Char) : List (List Char) :=
  match (Text.splitOn '\n' text).reverse with
  | [] => []
  | last :: before =>
      before.reverse.map withoutReturn ++ (if last.isEmpty then [] else [last])

def padded (width number : Nat) : List Char :=
  let digits := (toString number).toList
  List.replicate (width - digits.length) ' ' ++ digits

/-- The lines of a pattern, each followed by the marks for it.  The lines of a pattern of several
lines are numbered. -/
def notated (fault : Fault) (pattern : List Char) : List (List Char) :=
  let lines := linesOf pattern
  let count := if pattern.getLast? = some '\n' then lines.length + 1 else lines.length
  let width := if count ≤ 1 then 0 else (toString count).length
  lines.zipIdx.flatMap fun (line, i) =>
    let lead := if width = 0 then List.replicate 4 ' ' else padded width (i + 1) ++ [':', ' ']
    let below := fault.spans.filter fun span => span.isOneLine && span.start.line == i + 1
    (lead ++ line) ::
      if below.isEmpty then [] else [List.replicate lead.length ' ' ++ marks 1 below]

def acrossLines (span : Span) : List Char :=
  ("on line " ++ toString span.start.line ++ " (column " ++ toString span.start.column ++
    ") through line " ++ toString span.stop.line ++ " (column " ++
    toString (span.stop.column - 1) ++ ")").toList

def report (fault : Fault) (pattern : List Char) : String :=
  let body :=
    if pattern.contains '\n' then
      let divider := List.replicate 79 '~'
      [divider] ++ fault.notated pattern ++ [divider] ++
        (fault.spans.filter fun span => !span.isOneLine).map acrossLines
    else fault.notated pattern
  Text.joinWith "\n"
    (["regex parse error:"] ++ body.map String.ofList ++ ["error: " ++ fault.cause.message])

end Fault

end FieldMenu.Pattern
