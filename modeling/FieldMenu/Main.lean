import FieldMenu.Command.Lookup
import FieldMenu.Log.Instant
import Std.Time.DateTime.Timestamp

namespace FieldMenu.Command

def variableNames : List String :=
  [ "QFT_CONFIG_PATH", "QFT_LOG_DROPPED_ENTRIES", "QFT_LOGGING_USE_STRUCTURED",
    "QFT_LOGGING_MIN_LEVEL" ]

def readEnvironment : IO Environment :=
  variableNames.filterMapM fun name => do
    pure ((← IO.getEnv name).map fun value => (name, value))

def readStamp : IO Log.Stamp := do
  let now := (← Std.Time.Timestamp.now).toMillisecondsSinceUnixEpoch.val
  pure { line := Log.secondText now ++ "Z", detail := Log.instantText now }

/-- Takes in the file at a path.  What is there but cannot be read as a file counts as a folder. -/
def takeIn (directory : Directory) (path : String) : IO Directory := do
  let place := Directory.placeOf path
  if (directory.bytesAt? place).isSome || directory.isFolder place then pure directory
  else
    try
      pure (directory.addFile path (← IO.FS.readBinFile path))
    catch
      | .noFileOrDirectory .. => pure directory
      | _ => pure (directory.addFolder place)

def takeInAll (invocation : Invocation) (environment : Environment) : IO Directory := do
  let more (directory : Directory) : IO Directory :=
    (invocation.lookups environment directory).foldlM takeIn directory
  more (← more (← more {}))

def put (written : List Written) : IO Unit := do
  for piece in written do
    let stream ← match piece.channel with
      | .output => IO.getStdout
      | .errors => IO.getStderr
    stream.putStr piece.text
    stream.flush

def putFiles (before after : Directory) : IO Unit := do
  for (place, bytes) in after.files do
    unless (before.bytesAt? place).any fun known => known == bytes do
      let path := Directory.pathOf place
      IO.FS.writeBinFile (path ++ ".tmp") bytes
      IO.FS.rename (path ++ ".tmp") path

/-- Runs the program.  A run that asks runs once more when the answer is there. -/
def runOnce (setting : Setting) (arguments : List String) (directory : Directory) :
    IO (Ending × Console) := do
  let (ending, console) := run setting arguments { directory }
  match console.askedAt with
  | none => pure (ending, console)
  | some shown => do
      put (console.written.take shown)
      let line ← (← IO.getStdin).getLine
      let (ending, console) := run setting arguments { directory, input := line.toList }
      pure (ending, { console with written := console.written.drop shown })

def Ending.farewell : Ending → List Written
  | .done | .unsuccessful _ => []
  | .stopped (.help topic) => [{ channel := .output, text := helpText topic }]
  | .stopped .version => [{ channel := .output, text := versionText }]
  | .stopped (.usage error) => [{ channel := .errors, text := error.text }]
  | .failed failure => [{ channel := .errors, text := "Error: " ++ failure.message ++ "\n" }]

def runProgram (arguments : List String) : IO UInt32 := do
  let environment ← readEnvironment
  let setting : Setting :=
    { environment, logFilter := ← IO.getEnv "RUST_LOG", stamp := ← readStamp }
  let directory ←
    match Invocation.read arguments with
    | .ok invocation => takeInAll invocation environment
    | .error _ => pure {}
  let (ending, console) ← runOnce setting arguments directory
  try
    putFiles directory console.directory
    put (console.written ++ ending.farewell)
    pure (UInt32.ofNat ending.exitCode)
  catch error =>
    put [{ channel := .errors, text := "Error: " ++ error.toString ++ "\n" }]
    pure 2

end FieldMenu.Command

def main (arguments : List String) : IO UInt32 :=
  FieldMenu.Command.runProgram arguments
