import FieldMenu.Text.Split

namespace FieldMenu.Command

inductive Name where
  | check
  | menu
  | activate
  | help
deriving DecidableEq, Repr

def Name.text : Name → String
  | .check => "check"
  | .menu => "menu"
  | .activate => "activate"
  | .help => "help"

def Name.parse? (text : String) : Option Name :=
  [.check, .menu, .activate, .help].find? fun name => name.text == text

inductive Flag where
  | config
  | preferences
  | verbose
  | library
  | select
  | json
  | icons
  | yes
  | help
  | version
deriving DecidableEq, Repr

namespace Flag

def long : Flag → String
  | config => "config"
  | preferences => "preferences"
  | verbose => "verbose"
  | library => "library"
  | select => "select"
  | json => "json"
  | icons => "icons"
  | yes => "yes"
  | help => "help"
  | version => "version"

def short? : Flag → Option Char
  | config => some 'c'
  | verbose => some 'v'
  | library => some 'l'
  | select => some 's'
  | yes => some 'y'
  | help => some 'h'
  | version => some 'V'
  | preferences | json | icons => none

def takesValue : Flag → Bool
  | config | preferences | library | select | icons => true
  | verbose | json | yes | help | version => false

/-- A path has to have at least one character; a list of ids may be empty. -/
def acceptsEmpty (flag : Flag) : Bool :=
  flag = select

def isRepeatable (flag : Flag) : Bool :=
  flag = select

def shared : List Flag := [config, preferences, verbose, help]

end Flag

def flagsOf : Option Name → List Flag
  | none => Flag.shared ++ [.version]
  | some .check => Flag.json :: Flag.shared
  | some .menu => [.library, .select, .json, .icons] ++ Flag.shared
  | some .activate => [.library, .select, .yes] ++ Flag.shared
  | some .help => []

inductive UsageError where
  | unknownWord (word : String)
  | unknownCommand (word : String)
  | missingCommand
  | missingValue (flag : Flag)
  | unneededValue (flag : Flag)
  | emptyValue (flag : Flag)
  | repeated (flag : Flag)
  | missingFlag (flag : Flag)
  | missingPath
deriving DecidableEq, Repr

def UsageError.message : UsageError → String
  | .unknownWord word => "unexpected argument '" ++ word ++ "' found"
  | .unknownCommand word => "unrecognized subcommand '" ++ word ++ "'"
  | .missingCommand => "a subcommand is required"
  | .missingValue flag => "a value is required for '--" ++ flag.long ++ "' but none was supplied"
  | .unneededValue flag => "no value is expected for '--" ++ flag.long ++ "'"
  | .emptyValue flag => "a value is required for '--" ++ flag.long ++ "' but none was supplied"
  | .repeated flag => "the argument '--" ++ flag.long ++ "' cannot be used multiple times"
  | .missingFlag flag => "the required argument '--" ++ flag.long ++ "' was not provided"
  | .missingPath => "the required argument '<PATH>...' was not provided"

inductive Stop where
  | help (topic : Option Name)
  | version
  | usage (error : UsageError)
deriving DecidableEq, Repr

/-- A flag that was given, before or after the name of the command, with its value if it takes
one. -/
structure Given where
  flag : Flag
  command : Option Name
  value : Option String
deriving DecidableEq, Repr

structure Words where
  command : Option Name := none
  given : List Given := []
  operands : List String := []
  pending : Option Flag := none
  plain : Bool := false
deriving DecidableEq, Repr

namespace Words

/-- Takes note of a flag.  At each side of the command's name, a flag stands once at most. -/
def give (words : Words) (flag : Flag) (value : Option String) : Except Stop Words :=
  if flag = .help then .error (.help words.command)
  else if flag = .version then .error .version
  else if value = some "" ∧ !flag.acceptsEmpty then .error (.usage (.emptyValue flag))
  else if !flag.isRepeatable ∧
      words.given.any (fun given => given.flag = flag ∧ given.command = words.command) then
    .error (.usage (.repeated flag))
  else
    .ok { words with
      given := words.given ++ [{ flag, command := words.command, value }], pending := none }

def operand (words : Words) (word : String) : Except Stop Words :=
  match words.command with
  | none =>
      if words.plain then .error (.usage (.unknownWord word))
      else
        match Name.parse? word with
        | some name => .ok { words with command := some name, plain := name = .help }
        | none => .error (.usage (.unknownCommand word))
  | some .check | some .menu => .error (.usage (.unknownWord word))
  | some .activate | some .help => .ok { words with operands := words.operands ++ [word] }

def longFlag (words : Words) (word : String) (name : List Char) (value : Option String) :
    Except Stop Words :=
  match (flagsOf words.command).find? fun flag => flag.long.toList == name, value with
  | none, _ => .error (.usage (.unknownWord word))
  | some flag, some value =>
      if flag.takesValue then words.give flag (some value)
      else .error (.usage (.unneededValue flag))
  | some flag, none =>
      if flag.takesValue then .ok { words with pending := some flag } else words.give flag none

/-- A cluster of short flags.  One that takes a value ends the cluster, and takes the rest of it,
behind an equals sign if there is one, or else the next word. -/
def shortFlags (words : Words) (word : String) : List Char → Except Stop Words
  | [] => .ok words
  | letter :: rest =>
      match (flagsOf words.command).find? fun flag => flag.short? == some letter with
      | none => .error (.usage (.unknownWord word))
      | some flag =>
          if flag.takesValue then
            match rest with
            | [] => .ok { words with pending := some flag }
            | '=' :: value => words.give flag (some (String.ofList value))
            | value => words.give flag (some (String.ofList value))
          else
            match words.give flag none with
            | .ok words => words.shortFlags word rest
            | .error stop => .error stop

def read (words : Words) (word : String) : Except Stop Words :=
  if words.plain then words.operand word
  else
    match word.toList, words.pending with
    | '-' :: _ :: _, some flag => .error (.usage (.missingValue flag))
    | _, some flag => words.give flag (some word)
    | ['-', '-'], none => .ok { words with plain := true }
    | '-' :: '-' :: rest, none =>
        let name := rest.takeWhile fun c => c != '='
        words.longFlag word name
          (if name.length < rest.length then some (String.ofList (rest.drop (name.length + 1)))
            else none)
    | '-' :: letter :: rest, none => words.shortFlags word (letter :: rest)
    | _, none => words.operand word

/-- The value of a flag; behind the name of the command it counts more than before it. -/
def value? (words : Words) (flag : Flag) : Option String :=
  let values := words.given.filter fun given => given.flag = flag
  (values.getLast?).bind Given.value

def values (words : Words) (flag : Flag) : List String :=
  (words.given.filter fun given => given.flag = flag).filterMap Given.value

def has (words : Words) (flag : Flag) : Bool :=
  words.given.any fun given => given.flag = flag

end Words

inductive Task where
  | check (json : Bool)
  | menu (library : String) (select : List String) (json : Bool) (icons : Option String)
  | activate (library : String) (select path : List String) (yes : Bool)
deriving DecidableEq, Repr

structure Invocation where
  task : Task
  config : Option String := none
  preferences : Option String := none
  verbose : Bool := false
deriving DecidableEq, Repr

namespace Words

def selected (words : Words) : List String :=
  (words.values .select).flatMap fun value =>
    (Text.splitOn ',' value.toList).map String.ofList

def library (words : Words) : Except Stop String :=
  match words.value? .library with
  | some path => .ok path
  | none => .error (.usage (.missingFlag .library))

def task (words : Words) : Name → Except Stop Task
  | .check => .ok (.check (words.has .json))
  | .menu => do
      .ok (.menu (← words.library) words.selected (words.has .json) (words.value? .icons))
  | .activate => do
      let library ← words.library
      if words.operands.isEmpty then .error (.usage .missingPath)
      else .ok (.activate library words.selected words.operands (words.has .yes))
  | .help =>
      match words.operands with
      | [] => .error (.help none)
      | [topic] =>
          match Name.parse? topic with
          | some name => .error (.help (some name))
          | none => .error (.usage (.unknownCommand topic))
      | _ :: word :: _ => .error (.usage (.unknownCommand word))

def invocation (words : Words) : Except Stop Invocation :=
  match words.pending, words.command with
  | some flag, _ => .error (.usage (.missingValue flag))
  | none, none => .error (.usage .missingCommand)
  | none, some name => do
      .ok
        { task := ← words.task name
          config := words.value? .config
          preferences := words.value? .preferences
          verbose := words.has .verbose }

end Words

def Invocation.read (arguments : List String) : Except Stop Invocation := do
  let words ← arguments.foldlM Words.read {}
  words.invocation

end FieldMenu.Command
