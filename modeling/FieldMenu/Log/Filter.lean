import FieldMenu.Log.Event
import FieldMenu.Pattern.Parse

/-! Directives stand between commas, such as `warn,store=debug`, and a pattern after a slash. -/

namespace FieldMenu.Log

/-- The lowest level that shows, or none where nothing does. -/
abbrev Threshold := Option Level

def Threshold.ofName? (name : List Char) : Option Threshold :=
  [ ("off", none), ("error", some Level.error), ("warn", some .warning), ("info", some .info),
    ("debug", some .debug), ("trace", some .debug) ].lookup (String.ofList (Text.asciiLowered name))

structure Directive where
  part : Option (List Char)
  threshold : Threshold
deriving DecidableEq, Repr

structure Filter where
  directives : List Directive
  pattern : Option Pattern := none
deriving Repr

inductive FilterWarning where
  | directive (text : List Char)
  | slashes (text : List Char)
  | pattern (refusal : Pattern.Refusal)
deriving DecidableEq, Repr

def FilterWarning.message : FilterWarning → String
  | .directive text =>
      "warning: invalid logging spec '" ++ String.ofList text ++ "', ignoring it"
  | .slashes text =>
      "warning: invalid logging spec '" ++ String.ofList text ++ "' (too many '/'s), ignoring it"
  | .pattern refusal =>
      "warning: invalid regex filter - " ++ refusal.message ++ ", ignoring it"

namespace Directive

def parse (text : List Char) : Except FilterWarning Directive :=
  match Text.splitOn '=' text with
  | [word] =>
      match Threshold.ofName? word with
      | some threshold => .ok { part := none, threshold }
      | none => .ok { part := some word, threshold := some .debug }
  | [part, name] =>
      let name := Text.trim name
      if name.isEmpty then .ok { part := some part, threshold := some .debug }
      else
        match Threshold.ofName? name with
        | some threshold => .ok { part := some part, threshold }
        | none => .error (.directive name)
  | _ => .error (.directive text)

/-- Puts a directive behind the others, or in the place of the one for the same part. -/
def insert (directive : Directive) : List Directive → List Directive
  | [] => [directive]
  | known :: rest =>
      if known.part = directive.part then directive :: rest else known :: directive.insert rest

def specificity (directive : Directive) : Nat :=
  (directive.part.map List.length).getD 0

def covers (directive : Directive) (part : List Char) : Bool :=
  (directive.part.map fun start => start.isPrefixOf part).getD true

end Directive

namespace Filter

def ofLevel (level : Level) : Filter :=
  { directives := [{ part := none, threshold := some level }] }

def directivesOf (text : List Char) : List Directive × List FilterWarning :=
  let pieces := ((Text.splitOn ',' text).map Text.trim).filter fun piece => !piece.isEmpty
  pieces.foldl
    (fun (directives, warnings) piece =>
      match Directive.parse piece with
      | .ok directive => (directive.insert directives, warnings)
      | .error warning => (directives, warnings ++ [warning]))
    ([], [])

/-- Reads a filter.  Without a directive, it shows errors. -/
def parse (text : String) : Filter × List FilterWarning :=
  let usual (directives : List Directive) : List Directive :=
    if directives.isEmpty then [{ part := none, threshold := some .error }] else directives
  match Text.splitOn '/' text.toList with
  | [] => ({ directives := usual [] }, [])
  | [listed] =>
      let (directives, warnings) := directivesOf listed
      ({ directives := usual directives }, warnings)
  | [listed, pattern] =>
      let (directives, warnings) := directivesOf listed
      match Pattern.parse pattern with
      | .ok pattern => ({ directives := usual directives, pattern := some pattern }, warnings)
      | .error refusal => ({ directives := usual directives }, warnings ++ [.pattern refusal])
  | _ => ({ directives := usual [] }, [.slashes text.toList])

/-- The threshold for a part of the program: that of the most specific directive, of equals the last
one. -/
def threshold (filter : Filter) (part : List Char) : Threshold :=
  let chosen := (filter.directives.filter fun directive => directive.covers part).foldl
    (fun best directive =>
      match best with
      | none => some directive
      | some best =>
          some (if best.specificity ≤ directive.specificity then directive else best))
    none
  chosen.bind Directive.threshold

def shows (filter : Filter) (part : List Char) (level : Level) (line : String) : Bool :=
  (filter.threshold part).any (fun threshold => level.passes threshold) &&
    filter.pattern.all fun pattern => pattern.occursIn line.toList

end Filter

end FieldMenu.Log
