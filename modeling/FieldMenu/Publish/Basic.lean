import FieldMenu.Document.Build
import FieldMenu.Document.Write
import FieldMenu.Files.Directory

/-!
A missing file puts the built-in document in force; a source that cannot be read leaves the document
in force as it was.
-/

namespace FieldMenu

inductive Source where
  | file (path : String)
  | inline (text : String)
  | builtin
deriving DecidableEq, Repr

/-- Where a published document came from; the built-in one comes with the reason for it. -/
inductive Origin where
  | file (path : String)
  | inline
  | builtin (reason : String)
deriving DecidableEq, Repr

namespace Origin

def text : Origin → String
  | .file path => path
  | .inline => "inline text"
  | .builtin reason => "built-in defaults (" ++ reason ++ ")"

def isBuiltin : Origin → Bool
  | .builtin _ => true
  | _ => false

def toJson : Origin → Json
  | .file path => .object [("kind", .string "file"), ("detail", .string path)]
  | .inline => .object [("kind", .string "inline")]
  | .builtin reason => .object [("kind", .string "builtIn"), ("detail", .string reason)]

end Origin

def maxDocumentSize : Nat := 1024 * 1024

inductive ConfigError where
  | io (path reason : String)
  | tooLarge (path : String) (size max : Nat)
  | preferences (path reason : String)
deriving DecidableEq, Repr

namespace ConfigError

def message : ConfigError → String
  | .io path reason => "Cannot read " ++ path ++ ": " ++ reason
  | .tooLarge path size max =>
      "Configuration document " ++ path ++ " is " ++ toString size ++ " bytes (limit " ++
        toString max ++ ")"
  | .preferences path reason => "Invalid preferences file " ++ path ++ ": " ++ reason

def userMessage : ConfigError → String
  | .io _ reason => "Failed to reload configuration: " ++ reason
  | .tooLarge _ size max =>
      "Failed to reload configuration: file is " ++ toString size ++ " bytes, the limit is " ++
        toString max
  | .preferences _ reason => "Invalid preferences: " ++ reason

def path : ConfigError → String
  | .io path _ | .tooLarge path _ _ | .preferences path _ => path

end ConfigError

structure PublishSummary where
  groupCount : Nat
  ungroupedItemCount : Nat
  origin : Origin
  report : BuildReport
deriving DecidableEq, Repr

namespace PublishSummary

def message (summary : PublishSummary) : String :=
  "Configuration reloaded successfully!\n\nLoaded " ++ toString summary.groupCount ++
    " groups and " ++ toString summary.ungroupedItemCount ++ " ungrouped items."

def toJson (summary : PublishSummary) : Json :=
  .object
    [ ("groupCount", .nat summary.groupCount),
      ("ungroupedItemCount", .nat summary.ungroupedItemCount),
      ("origin", summary.origin.toJson),
      ("report", summary.report.toJson) ]

end PublishSummary

/-- A text to build a document from, or none where the built-in document is to stand in. -/
structure SourceText where
  text : Option String
  origin : Origin

structure Logged (α : Type) where
  value : α
  events : List Log.Event := []

namespace Source

def fileText (directory : Directory) (path : String) : Logged (Except ConfigError SourceText) :=
  match directory.size path with
  | .error .notFound =>
      { value := .ok { text := none, origin := .builtin (path ++ " not found") }
        events :=
          [.warning .builtinFallback "Configuration file not found; using the built-in document"
            [("path", path)]] }
  | .error error => { value := .error (.io path error.message) }
  | .ok size =>
      if maxDocumentSize < size then
        { value := .error (.tooLarge path size maxDocumentSize)
          events :=
            [.error .documentTooLarge "Configuration document exceeds the size limit"
              [("path", path), ("size", toString size)]] }
      else
        match directory.readText path with
        | .ok text => { value := .ok { text := some text, origin := .file path } }
        | .error error => { value := .error (.io path error.message) }

def read (directory : Directory) : Source → Logged (Except ConfigError SourceText)
  | .file path => fileText directory path
  | .inline text => { value := .ok { text := some text, origin := .inline } }
  | .builtin => { value := .ok { text := none, origin := .builtin "no configuration source" } }

end Source

def Document.builtinBuild : Document.Build :=
  { document := .builtin, report := { usedBuiltin := true }, events := [] }

/-- Where the document came from, when the text turns out to hold no usable entry. -/
def Origin.withReport (origin : Origin) (report : BuildReport) : Origin :=
  if report.usedBuiltin && !origin.isBuiltin then .builtin ("no usable entries in " ++ origin.text)
  else origin

structure Publisher where
  source : Source
  logDropped : Bool := true
  current : Document := .builtin

structure Published where
  publisher : Publisher
  result : Except ConfigError PublishSummary
  events : List Log.Event

namespace Publisher

/-- Puts the document of a text in force; `code` tells a first document from a later one. -/
def put (publisher : Publisher) (code : Log.Code) (found : SourceText) : Published :=
  let build :=
    match found.text with
    | some text => Document.build text publisher.logDropped
    | none => Document.builtinBuild
  let summary : PublishSummary :=
    { groupCount := build.document.groups.length
      ungroupedItemCount := build.document.ungroupedItems.length
      origin := found.origin.withReport build.report
      report := build.report }
  { publisher := { publisher with current := build.document }
    result := .ok summary
    events := build.events ++
      [.info code "Configuration published"
        [ ("groups", toString summary.groupCount),
          ("ungrouped_items", toString summary.ungroupedItemCount),
          ("origin", summary.origin.text),
          ("dropped", toString summary.report.droppedTotal) ]] }

def publish (publisher : Publisher) (code : Log.Code) (directory : Directory) : Published :=
  let found := publisher.source.read directory
  match found.value with
  | .error error =>
      { publisher
        result := .error error
        events := found.events ++
          [.error .readFailed "Configuration reload failed; keeping the previous document"
            [("error", error.message)]] }
  | .ok text =>
      let published := publisher.put code text
      { published with events := found.events ++ published.events }

def load (publisher : Publisher) (directory : Directory) : Published :=
  publisher.publish .documentLoaded directory

def reload (publisher : Publisher) (directory : Directory) : Published :=
  publisher.publish .documentReloaded directory

end Publisher

end FieldMenu
