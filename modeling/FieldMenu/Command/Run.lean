import FieldMenu.Activation.Basic
import FieldMenu.Command.Help
import FieldMenu.Icons.Theme
import FieldMenu.Library.Basic
import FieldMenu.Log.Output
import FieldMenu.Menu.Write
import FieldMenu.Preferences.Basic

namespace FieldMenu.Command

inductive Channel where
  | output
  | errors
deriving DecidableEq, Repr

structure Written where
  channel : Channel
  text : String
deriving DecidableEq, Repr

structure Console where
  directory : Directory
  input : List Char := []
  written : List Written := []
  /-- How much was written when a line was read for the first time. -/
  askedAt : Option Nat := none

namespace Console

def write (console : Console) (channel : Channel) (text : String) : Console :=
  { console with written := console.written ++ [{ channel, text }] }

def readLine (console : Console) : List Char × Console :=
  let line := console.input.takeWhile fun c => c != '\n'
  (line,
    { console with
      input := console.input.drop (line.length + 1)
      askedAt := console.askedAt <|> some console.written.length })

def textOf (console : Console) (channel : Channel) : String :=
  String.join
    ((console.written.filter fun written => written.channel = channel).map Written.text)

end Console

structure Setting where
  environment : Environment := []
  logFilter : Option String := none
  stamp : Log.Stamp

inductive Failure where
  | config (error : ConfigError)
  | library (error : LibraryError)
deriving DecidableEq, Repr

def Failure.message : Failure → String
  | .config error => error.message
  | .library error => error.message

inductive Ending where
  | done
  | stopped (stop : Stop)
  | failed (failure : Failure)
  | unsuccessful (error : ActivationError)
deriving DecidableEq, Repr

def Ending.exitCode : Ending → Nat
  | .done | .stopped (.help _) | .stopped .version => 0
  | .stopped (.usage _) => 2
  | .failed _ => 1
  | .unsuccessful error => if error.isRecoverable then 2 else 1

abbrev Step (α : Type) := StateM Console α

abbrev Try (α : Type) := ExceptT Failure (StateM Console) α

def say (channel : Channel) (text : String) : Step Unit :=
  modify fun console => console.write channel text

def sayLine (text : String) : Step Unit :=
  say .output (text ++ "\n")

structure Logging where
  output : Log.Output
  stamp : Log.Stamp

namespace Logging

def event (logging : Logging) (event : Log.Event) : Step Unit :=
  match logging.output.text? logging.stamp event with
  | some text => say .errors text
  | none => pure ()

def events (logging : Logging) (events : List Log.Event) : Step Unit :=
  events.forM logging.event

/-- Sets up the log.  A verbose run shows everything, unless a filter says otherwise. -/
def start (setting : Setting) (preferences : LoggingPreferences) (verbose : Bool) :
    Step Logging := do
  let threshold := if verbose then Log.Level.debug else preferences.level
  let (filter, warnings) :=
    match setting.logFilter with
    | some text => Log.Filter.parse text
    | none => (Log.Filter.ofLevel threshold, [])
  warnings.forM fun warning => say .errors (warning.message ++ "\n")
  let logging : Logging :=
    { output := { filter, threshold, structured := preferences.useStructuredLogging }
      stamp := setting.stamp }
  logging.event
    (.info .loggingInitialized "Logging initialized" [("level", threshold.name)])
  pure logging

end Logging

def defaultConfigPath : String := "quickfieldtoggle.json"

def Invocation.preferencesOf (invocation : Invocation) (environment : Environment) :
    Try Preferences := do
  match invocation.preferences with
  | none => pure (Preferences.ofEnvironment environment)
  | some path =>
      match (Preferences.ofFile environment (← get).directory path).value with
      | .ok preferences => pure preferences
      | .error error => throw (.config error)

/-- The path of the configuration file: an argument counts more than a preference. -/
def Invocation.configPath (invocation : Invocation) (preferences : ServicePreferences) : String :=
  ((invocation.config <|> preferences.configPath)).getD defaultConfigPath

structure Loaded where
  document : Document
  summary : PublishSummary

def loadDocument (logging : Logging) (path : String) (preferences : ServicePreferences) :
    Try Loaded := do
  let publisher : Publisher :=
    { source := .file path, logDropped := preferences.logDroppedEntries }
  let published := publisher.load (← get).directory
  logging.events published.events
  match published.result with
  | .ok summary => pure { document := published.publisher.current, summary }
  | .error error => throw (.config error)

def ofLibrary {α : Type} : Except LibraryError α → Try α
  | .ok value => pure value
  | .error error => throw (.library error)

def checkJson (loaded : Loaded) : Json :=
  .object [("summary", loaded.summary.toJson), ("document", loaded.document.toJson)]

def check (loaded : Loaded) (json : Bool) : Step Unit :=
  if json then sayLine (checkJson loaded).indented
  else do
    sayLine loaded.summary.message
    sayLine ("Source: " ++ loaded.summary.origin.text)
    if loaded.summary.report.isClean then pure ()
    else sayLine loaded.summary.report.toJson.indented

def showMenu (logging : Logging) (document : Document) (path : String) (select : List String)
    (json : Bool) (icons : Option String) : Try Unit := do
  let library ← ofLibrary (Library.openFile (← get).directory path)
  let selection ← ofLibrary (library.select select)
  let menu := document.menu selection library.records
  logging.event (menuBuiltEvent selection menu)
  if json then sayLine (menuJson menu).indented
  else do
    let directory := (← get).directory
    let outline := menuOutline (icons.map fun root => { directory, root }) menu
    logging.events outline.events
    say .output outline.text

def isYes (line : List Char) : Bool :=
  ["y", "yes"].contains (String.ofList (Text.lowercase (Text.trim line)))

def ask (question : Question) : Step Bool := do
  say .errors (question.message ++ " [y/N] ")
  let (line, console) := (← get).readLine
  set console
  pure (isYes line)

abbrev Update := StateT Library (StateM Console)

def host (logging : Logging) (yes : Bool) : Host Update where
  confirm question := if yes then pure true else (ask question : Step Bool)
  persist batch := do
    let library ← get
    let console ← (MonadState.get : Step Console)
    let persisted := library.persist console.directory batch
    set persisted.library
    (MonadState.set { console with directory := persisted.directory } : Step Unit)
    pure persisted.result
  log event := (logging.event event : Step Unit)

def tell (logging : Logging) (path : List String) : Except ActivationError Outcome → Step Ending
  | .ok (.applied report) => do
      sayLine report.summary
      report.failures.forM fun failure =>
        say .errors ("  " ++ failure.entity ++ ": " ++ failure.error ++ "\n")
      pure .done
  | .ok .cancelled => do
      sayLine "Cancelled."
      pure .done
  | .ok .noTargets => do
      sayLine "No entries selected."
      pure .done
  | .ok .notActionable => do
      sayLine ("'" ++ Text.joinWith " > " path ++ "' opens a submenu; add a key to pick an entry.")
      pure .done
  | .error error => do
      logging.event (.error .internalError "Activation failed" [("error", error.message)])
      say .errors ("Error: " ++ error.userMessage ++ "\n")
      pure (.unsuccessful error)

def activate (logging : Logging) (document : Document) (path : String)
    (select keys : List String) (yes : Bool) : Try Ending := do
  let library ← ofLibrary (Library.openFile (← get).directory path)
  let targets ← ofLibrary (library.select select)
  let (activation, _) ←
    ((document.activatePath (host logging yes) keys targets library.records).run library :
      Step (Activation × Library))
  tell logging keys activation.outcome

def Invocation.run (invocation : Invocation) (setting : Setting) : Try Ending := do
  let preferences ← invocation.preferencesOf setting.environment
  let logging ← Logging.start setting preferences.logging invocation.verbose
  let path := invocation.configPath preferences.service
  logging.event (.info .genericInfo "Using configuration" [("path", path)])
  let loaded ← loadDocument logging path preferences.service
  match invocation.task with
  | .check json => do
      check loaded json
      pure .done
  | .menu library select json icons => do
      showMenu logging loaded.document library select json icons
      pure .done
  | .activate library select keys yes => activate logging loaded.document library select keys yes

def run (setting : Setting) (arguments : List String) (console : Console) : Ending × Console :=
  match Invocation.read arguments with
  | .error stop => (.stopped stop, console)
  | .ok invocation =>
      match (invocation.run setting).run.run console with
      | (.ok ending, console) => (ending, console)
      | (.error failure, console) => (.failed failure, console)

end FieldMenu.Command
