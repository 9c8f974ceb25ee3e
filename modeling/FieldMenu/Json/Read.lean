import FieldMenu.Json.Value

/-! The grammar is the standard's, without any leniency. -/

namespace FieldMenu.Json

def isSpace (c : Char) : Bool :=
  c = ' ' || c = '\n' || c = '\r' || c = '\t'

def skipSpace (text : List Char) : List Char :=
  text.dropWhile isSpace

def hexValue? (c : Char) : Option Nat :=
  if '0' ≤ c ∧ c ≤ '9' then some (c.toNat - '0'.toNat)
  else if 'a' ≤ c ∧ c ≤ 'f' then some (c.toNat - 'a'.toNat + 10)
  else if 'A' ≤ c ∧ c ≤ 'F' then some (c.toNat - 'A'.toNat + 10)
  else none

def readUnit? : List Char → Option (Nat × List Char)
  | a :: b :: c :: d :: rest => do
      let a ← hexValue? a
      let b ← hexValue? b
      let c ← hexValue? c
      let d ← hexValue? d
      some (((a * 16 + b) * 16 + c) * 16 + d, rest)
  | _ => none

/-- The character of an escape `\u`, which spans a second escape where it is half of a pair.  Half
of a pair without the other half is an escape of its own, and no character. -/
def readEscapedUnit? (text : List Char) : Option (Option Char × List Char) := do
  let (high, rest) ← readUnit? text
  if 0xD800 ≤ high ∧ high ≤ 0xDFFF then
    match rest with
    | '\\' :: 'u' :: more => do
        let (low, more) ← readUnit? more
        if high ≤ 0xDBFF ∧ 0xDC00 ≤ low ∧ low ≤ 0xDFFF then
          some (some (Char.ofNat (0x10000 + (high - 0xD800) * 0x400 + (low - 0xDC00))), more)
        else some (none, rest)
    | _ => some (none, rest)
  else some (some (Char.ofNat high), rest)

def simpleEscape? (c : Char) : Option Char :=
  if c = '"' ∨ c = '\\' ∨ c = '/' then some c
  else if c = 'b' then some '\x08'
  else if c = 'f' then some '\x0c'
  else if c = 'n' then some '\n'
  else if c = 'r' then some '\r'
  else if c = 't' then some '\t'
  else none

/-- Reads a string whose opening quote has been read; `read` is its content so far, last character
first, or none if that is no text.  The fuel bounds the number of characters. -/
def readStringBody? : (fuel : Nat) → (read : Option (List Char)) → List Char →
    Option (Option String × List Char)
  | 0, _, _ => none
  | _ + 1, _, [] => none
  | fuel + 1, read, c :: rest =>
      if c = '"' then some (read.map fun read => String.ofList read.reverse, rest)
      else if c = '\\' then
        match rest with
        | 'u' :: rest =>
            match readEscapedUnit? rest with
            | some (c, rest) =>
                readStringBody? fuel (read.bind fun read => c.map fun c => c :: read) rest
            | none => none
        | e :: rest =>
            match simpleEscape? e with
            | some c => readStringBody? fuel (read.map fun read => c :: read) rest
            | none => none
        | [] => none
      else if c.toNat < 0x20 then none
      else readStringBody? fuel (read.map fun read => c :: read) rest

def readDigits? (text : List Char) : Option (List Char × List Char) :=
  let digits := text.takeWhile Char.isDigit
  if digits.isEmpty then none else some (digits, text.dropWhile Char.isDigit)

/-- The digits before the point: no zero stands in front of another digit. -/
def readWhole? : List Char → Option (List Char × List Char)
  | '0' :: rest => some (['0'], rest)
  | text => readDigits? text

def readFraction? : List Char → Option (List Char × List Char)
  | '.' :: rest => (readDigits? rest).map fun (digits, rest) => ('.' :: digits, rest)
  | text => some ([], text)

def readExponent? : List Char → Option (List Char × List Char)
  | e :: rest =>
      if e = 'e' ∨ e = 'E' then
        match rest with
        | sign :: tail =>
            if sign = '+' ∨ sign = '-' then
              (readDigits? tail).map fun (digits, rest) => (e :: sign :: digits, rest)
            else (readDigits? rest).map fun (digits, rest) => (e :: digits, rest)
        | [] => none
      else some ([], e :: rest)
  | [] => some ([], [])

/-- A number.  Zero with a minus sign is no integer, because no integer is written so. -/
def readNumber? (text : List Char) : Option (Json × List Char) := do
  let negative := text.head? = some '-'
  let (whole, rest) ← readWhole? (if negative then text.tail else text)
  let (fraction, rest) ← readFraction? rest
  let (exponent, rest) ← readExponent? rest
  let magnitude : Int := whole.foldl (fun n c => 10 * n + (c.toNat - '0'.toNat)) 0
  if fraction.isEmpty ∧ exponent.isEmpty ∧ ¬ (negative ∧ magnitude = 0) then
    some (.int (if negative then -magnitude else magnitude), rest)
  else
    let sign := if negative then ['-'] else []
    some (.real (String.ofList (sign ++ whole ++ fraction ++ exponent)), rest)

def afterWord? (word : String) (text : List Char) : Option (List Char) :=
  if word.toList.isPrefixOf text then some (text.drop word.length) else none

def readName? (fuel : Nat) (text : List Char) : Option (Option String × List Char) :=
  match text with
  | '"' :: rest => do
      let (name, rest) ← readStringBody? fuel (some []) rest
      match skipSpace rest with
      | ':' :: rest => some (name, rest)
      | _ => none
  | _ => none

/-- The value made of what was read from a text, or, where that came to nothing, its spelling: the
text up to what is left. -/
def ofReading {α : Type} (make : α → Json) (text rest : List Char) : Option α → Json
  | some read => make read
  | none => .unreadable (String.ofList (text.take (text.length - rest.length)))

mutual

def readValue? : (fuel : Nat) → List Char → Option (Json × List Char)
  | 0, _ => none
  | fuel + 1, text =>
      let text := skipSpace text
      match text with
      | '"' :: rest =>
          (readStringBody? (fuel + 1) (some []) rest).map fun (value, rest) =>
            (ofReading .string text rest value, rest)
      | '[' :: rest =>
          match skipSpace rest with
          | ']' :: rest => some (.array [], rest)
          | rest => readItems? fuel [] rest
      | '\x7b' :: rest =>
          match skipSpace rest with
          | '\x7d' :: rest => some (.object [], rest)
          | rest =>
              (readMembers? fuel (some []) rest).map fun (members, rest) =>
                (ofReading .object text rest members, rest)
      | rest =>
          match afterWord? "null" rest, afterWord? "true" rest, afterWord? "false" rest with
          | some rest, _, _ => some (.null, rest)
          | _, some rest, _ => some (.bool true, rest)
          | _, _, some rest => some (.bool false, rest)
          | none, none, none => readNumber? rest

def readItems? : (fuel : Nat) → (read : List Json) → List Char → Option (Json × List Char)
  | 0, _, _ => none
  | fuel + 1, read, text =>
      match readValue? fuel text with
      | none => none
      | some (item, rest) =>
          match skipSpace rest with
          | ',' :: rest => readItems? fuel (item :: read) rest
          | ']' :: rest => some (.array (item :: read).reverse, rest)
          | _ => none

def readMembers? :
    (fuel : Nat) → (read : Option (List (String × Json))) → List Char →
    Option (Option (List (String × Json)) × List Char)
  | 0, _, _ => none
  | fuel + 1, read, text =>
      match readName? (fuel + 1) (skipSpace text) with
      | none => none
      | some (name, rest) =>
          match readValue? fuel rest with
          | none => none
          | some (value, rest) =>
              let read := read.bind fun read => name.map fun name => (name, value) :: read
              match skipSpace rest with
              | ',' :: rest => readMembers? fuel read rest
              | '\x7d' :: rest => some (read.map List.reverse, rest)
              | _ => none

end

/-- The value that a whole text denotes.  No more than two calls go by without a character read, so
the fuel never runs out before the text does. -/
def read? (text : String) : Option Json :=
  let chars := text.toList
  match readValue? (2 * chars.length + 2) chars with
  | some (json, rest) => if (skipSpace rest).isEmpty then some json else none
  | none => none

end FieldMenu.Json
