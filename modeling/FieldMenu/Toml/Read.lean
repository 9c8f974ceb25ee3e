import FieldMenu.Json.Read
import FieldMenu.Toml.Scalar

namespace FieldMenu.Toml

def isSpace (c : Char) : Bool :=
  c = ' ' || c = '\t'

def skipSpace (text : List Char) : List Char :=
  text.dropWhile isSpace

def isControl (c : Char) : Bool :=
  (c.toNat < 0x20 && c != '\t') || c.toNat = 0x7F

def afterNewline? : List Char → Option (List Char)
  | '\n' :: rest | '\r' :: '\n' :: rest => some rest
  | _ => none

/-- What follows a comment, if there is one; none where it holds a control character. -/
def afterComment? : List Char → Option (List Char)
  | '#' :: rest =>
      let rest := rest.dropWhile fun c => !isControl c
      if rest.isEmpty || (afterNewline? rest).isSome then some rest else none
  | text => some text

def namedCharacter? (count : Nat) (text : List Char) : Option (Char × List Char) :=
  let digits := text.take count
  let code := groupValue 16 digits
  if digits.length = count ∧ digits.all isHexDigit ∧ code.isValidChar then
    some (Char.ofNat code, text.drop count)
  else none

def escape? : List Char → Option (Char × List Char)
  | 'u' :: rest => namedCharacter? 4 rest
  | 'U' :: rest => namedCharacter? 8 rest
  | c :: rest =>
      if c = '/' then none else (Json.simpleEscape? c).map fun c => (c, rest)
  | [] => none

def skipLines : (fuel : Nat) → List Char → List Char
  | 0, text => text
  | fuel + 1, text =>
      match afterNewline? (skipSpace text) with
      | some rest => skipLines fuel rest
      | none => skipSpace text

def lineString? (quote : Char) :
    (fuel : Nat) → (read : List Char) → List Char → Option (String × List Char)
  | 0, _, _ | _ + 1, _, [] => none
  | fuel + 1, read, c :: rest =>
      if c = quote then some (String.ofList read.reverse, rest)
      else if c = '\\' ∧ quote = '"' then
        match escape? rest with
        | some (c, rest) => lineString? quote fuel (c :: read) rest
        | none => none
      else if isControl c then none
      else lineString? quote fuel (c :: read) rest

def leadingQuotes (quote : Char) (text : List Char) : Nat :=
  (text.takeWhile fun c => c = quote).length

/-- The content of a string over several lines, up to its three closing quotes, before which one or
two more belong to the content. -/
def blockString? (quote : Char) :
    (fuel : Nat) → (read : List Char) → List Char → Option (String × List Char)
  | 0, _, _ | _ + 1, _, [] => none
  | fuel + 1, read, c :: rest =>
      let count := leadingQuotes quote (c :: rest)
      if 3 ≤ count then
        let inside := List.replicate (min count 5 - 3) quote
        some (String.ofList (inside ++ read).reverse, (c :: rest).drop (min count 5))
      else if c = '\\' ∧ quote = '"' then
        match afterNewline? (skipSpace rest) with
        | some rest => blockString? quote fuel read (skipLines rest.length rest)
        | none =>
            match escape? rest with
            | some (c, rest) => blockString? quote fuel (c :: read) rest
            | none => none
      else
        match afterNewline? (c :: rest) with
        | some rest => blockString? quote fuel ('\n' :: read) rest
        | none => if isControl c then none else blockString? quote fuel (c :: read) rest

/-- A string in any of its four forms.  A line end right behind three opening quotes does not
count. -/
def string? (text : List Char) : Option (String × List Char) :=
  let block (quote : Char) (rest : List Char) : Option (String × List Char) :=
    blockString? quote text.length [] ((afterNewline? rest).getD rest)
  match text with
  | '"' :: '"' :: '"' :: rest => block '"' rest
  | '\'' :: '\'' :: '\'' :: rest => block '\'' rest
  | '"' :: rest => lineString? '"' text.length [] rest
  | '\'' :: rest => lineString? '\'' text.length [] rest
  | _ => none

def isBareKeyChar (c : Char) : Bool :=
  c.isAlphanum || c = '_' || c = '-'

def keyPart? (text : List Char) : Option (String × List Char) :=
  match text with
  | '"' :: rest => lineString? '"' text.length [] rest
  | '\'' :: rest => lineString? '\'' text.length [] rest
  | _ =>
      let bare := text.takeWhile isBareKeyChar
      if bare.isEmpty then none else some (String.ofList bare, text.dropWhile isBareKeyChar)

def keyParts? : (fuel : Nat) → List Char → Option (List String × List Char)
  | 0, _ => none
  | fuel + 1, text => do
      let (part, rest) ← keyPart? (skipSpace text)
      match skipSpace rest with
      | '.' :: rest => do
          let (parts, rest) ← keyParts? fuel rest
          some (part :: parts, rest)
      | rest => some ([part], rest)

/-- The number of parts of a key, and of values inside each other, that is too many. -/
def depthLimit : Nat := 80

def key? (text : List Char) : Option (List String × String × List Char) := do
  let (parts, rest) ← keyParts? text.length text
  let last ← parts.getLast?
  if parts.length < depthLimit then some (parts.dropLast, last, rest) else none

def skipFiller? : (fuel : Nat) → List Char → Option (List Char)
  | 0, text => some text
  | fuel + 1, text => do
      let rest ← afterComment? (skipSpace text)
      match afterNewline? rest with
      | some rest => skipFiller? fuel rest
      | none => some rest

def isScalarChar (c : Char) : Bool :=
  c.isAlphanum || c = '_' || c = '-' || c = '+' || c = '.' || c = ':'

/-- A value without quotes and brackets.  A blank may stand between a date and a time. -/
def scalar? (text : List Char) : Option (Toml × List Char) :=
  let first := text.takeWhile isScalarChar
  let rest := text.dropWhile isScalarChar
  let spelling :=
    match afterDate? first, rest with
    | some [], ' ' :: c :: more =>
        if c.isDigit then first ++ ' ' :: (c :: more).takeWhile isScalarChar else first
    | _, _ => first
  (scalarOf? spelling).map fun value => (value, text.drop spelling.length)

mutual

def value? : (fuel depth : Nat) → List Char → Option (Toml × List Char)
  | 0, _, _ => none
  | fuel + 1, depth, text =>
      let inside := depth + 1
      match text with
      | '"' :: _ | '\'' :: _ => (string? text).map fun (value, rest) => (.string value, rest)
      | '[' :: rest => if inside < depthLimit then items? fuel inside [] rest else none
      | '\x7b' :: rest =>
          if inside < depthLimit then
            match skipSpace rest with
            | '\x7d' :: rest => some (.table .inline [], rest)
            | rest => pairs? fuel inside [] rest
          else none
      | _ => scalar? text

def items? : (fuel depth : Nat) → (read : List Toml) → List Char → Option (Toml × List Char)
  | 0, _, _, _ => none
  | fuel + 1, depth, read, text =>
      match skipFiller? text.length text with
      | none => none
      | some (']' :: rest) => some (.array read.reverse, rest)
      | some text =>
          match value? fuel depth text with
          | none => none
          | some (item, rest) =>
              match skipFiller? rest.length rest with
              | some (',' :: rest) => items? fuel depth (item :: read) rest
              | some (']' :: rest) => some (.array (item :: read).reverse, rest)
              | _ => none

def pairs? : (fuel depth : Nat) → (read : Entries) → List Char → Option (Toml × List Char)
  | 0, _, _, _ => none
  | fuel + 1, depth, read, text =>
      match key? text with
      | some (path, key, '=' :: rest) =>
          match value? fuel depth (skipSpace rest) with
          | none => none
          | some (value, rest) =>
              match addPair path key value read, skipSpace rest with
              | some read, ',' :: rest => pairs? fuel depth read rest
              | some read, '\x7d' :: rest => some (.table .inline read, rest)
              | _, _ => none
      | _ => none

end

def line? (text : List Char) : Option (Line × List Char) :=
  match text with
  | '[' :: '[' :: rest => do
      let (path, key, rest) ← key? rest
      match rest with
      | ']' :: ']' :: rest => some (.arrayHeader path key, rest)
      | _ => none
  | '[' :: rest => do
      let (path, key, rest) ← key? rest
      match rest with
      | ']' :: rest => some (.header path key, rest)
      | _ => none
  | _ => do
      let (path, key, rest) ← key? text
      match rest with
      | '=' :: rest => do
          let (value, rest) ← value? (2 * rest.length + 2) 0 (skipSpace rest)
          some (.pair path key value, rest)
      | _ => none

def lines? : (fuel : Nat) → (read : List Line) → List Char → Option (List Line)
  | 0, _, _ => none
  | fuel + 1, read, text =>
      match skipFiller? text.length text with
      | none => none
      | some [] => some read.reverse
      | some text => do
          let (line, rest) ← line? text
          match ← afterComment? (skipSpace rest) with
          | [] => some (line :: read).reverse
          | rest => do lines? fuel (line :: read) (← afterNewline? rest)

/-- The entries of a document.  A byte order mark at its start does not count. -/
def read? (text : String) : Option Entries :=
  let chars :=
    match text.toList with
    | '\uFEFF' :: rest => rest
    | chars => chars
  (lines? (chars.length + 1) [] chars).bind assemble?

end FieldMenu.Toml
