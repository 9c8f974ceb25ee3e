import FieldMenu.Toml.Value

namespace FieldMenu.Toml

def isGroup (isDigit : Char → Bool) : List Char → Bool
  | [] => false
  | [c] => isDigit c
  | c :: '_' :: rest => isDigit c && isGroup isDigit rest
  | c :: rest => isDigit c && isGroup isDigit rest

def isHexDigit (c : Char) : Bool :=
  c.isDigit || ('a' ≤ c && c ≤ 'f') || ('A' ≤ c && c ≤ 'F')

def digitValue (c : Char) : Nat :=
  if c.isDigit then c.toNat - '0'.toNat
  else if 'a' ≤ c ∧ c ≤ 'f' then c.toNat - 'a'.toNat + 10
  else c.toNat - 'A'.toNat + 10

def groupValue (base : Nat) (digits : List Char) : Nat :=
  (digits.filter fun c => c != '_').foldl (fun number c => base * number + digitValue c) 0

def isDecimalGroup (text : List Char) : Bool :=
  isGroup Char.isDigit text

def isWhole (text : List Char) : Bool :=
  text == ['0'] || (isDecimalGroup text && text.head? != some '0')

def signed : List Char → Option Char × List Char
  | '+' :: rest => (some '+', rest)
  | '-' :: rest => (some '-', rest)
  | text => (none, text)

def inRange (value : Int) : Option Int :=
  if -0x8000000000000000 ≤ value ∧ value < 0x8000000000000000 then some value else none

/-- An integer of 64 bits; without a sign it may be hexadecimal, octal or binary. -/
def integerOf? : List Char → Option Int
  | '0' :: 'x' :: rest => if isGroup isHexDigit rest then inRange (groupValue 16 rest) else none
  | '0' :: 'o' :: rest =>
      if isGroup (fun c => '0' ≤ c && c ≤ '7') rest then inRange (groupValue 8 rest) else none
  | '0' :: 'b' :: rest =>
      if isGroup (fun c => c == '0' || c == '1') rest then inRange (groupValue 2 rest) else none
  | text =>
      let (sign, digits) := signed text
      if isWhole digits then
        let magnitude : Int := groupValue 10 digits
        inRange (if sign = some '-' then -magnitude else magnitude)
      else none

def isExponent (text : List Char) : Bool :=
  isDecimalGroup (signed text).2

def isFloatTail : List Char → Bool
  | '.' :: rest =>
      let digits := rest.takeWhile fun c => c != 'e' && c != 'E'
      isDecimalGroup digits &&
        match rest.dropWhile fun c => c != 'e' && c != 'E' with
        | [] => true
        | _ :: exponent => isExponent exponent
  | 'e' :: exponent | 'E' :: exponent => isExponent exponent
  | _ => false

/-- The least number that is too large for a float of 64 bits: from here on, numbers round up to the
power of two that has no float. -/
def floatBound : Nat := Nat.pow 2 1024 - Nat.pow 2 970

/-- `digits * 10 ^ scale` is too large for a float.  The number of digits decides at once, unless it
is that of the bound. -/
def exceedsFloats (digits : Nat) (scale : Int) : Bool :=
  let places := (toString digits).length + scale
  if digits = 0 ∨ places < 309 then false
  else if 309 < places then true
  else if 0 ≤ scale then floatBound ≤ digits * Nat.pow 10 scale.toNat
  else floatBound * Nat.pow 10 (-scale).toNat ≤ digits

def exponentOf : List Char → Int
  | [] => 0
  | _ :: text =>
      let (sign, digits) := signed text
      let magnitude : Int := groupValue 10 digits
      if sign = some '-' then -magnitude else magnitude

def isTooLarge (body : List Char) : Bool :=
  let isExponentLetter (c : Char) : Bool := c = 'e' || c = 'E'
  let mantissa := (body.takeWhile fun c => !isExponentLetter c).filter fun c => c != '_'
  let exponent := exponentOf (body.dropWhile fun c => !isExponentLetter c)
  let fraction := (mantissa.dropWhile fun c => c != '.').drop 1
  exceedsFloats (groupValue 10 (mantissa.filter Char.isDigit)) (exponent - fraction.length)

/-- A float.  A number below all floats counts as an infinite one, but a number above them is
refused. -/
def isFloat (text : List Char) : Bool :=
  let (sign, body) := signed text
  body == "inf".toList || body == "nan".toList ||
    (isWhole (body.takeWhile fun c => c.isDigit || c == '_') &&
      isFloatTail (body.dropWhile fun c => c.isDigit || c == '_') &&
      (sign == some '-' || !isTooLarge body))

def fixedDigits? (count : Nat) (text : List Char) : Option (Nat × List Char) :=
  let digits := text.take count
  if digits.length = count ∧ digits.all Char.isDigit then
    some (groupValue 10 digits, text.drop count)
  else none

def character? (expected : Char) : List Char → Option (List Char)
  | c :: rest => if c = expected then some rest else none
  | [] => none

def daysInMonth (year month : Nat) : Nat :=
  if month = 2 then
    if year % 4 = 0 ∧ (year % 100 ≠ 0 ∨ year % 400 = 0) then 29 else 28
  else if month = 4 ∨ month = 6 ∨ month = 9 ∨ month = 11 then 30
  else 31

def afterDate? (text : List Char) : Option (List Char) := do
  let (year, rest) ← fixedDigits? 4 text
  let (month, rest) ← fixedDigits? 2 (← character? '-' rest)
  let (day, rest) ← fixedDigits? 2 (← character? '-' rest)
  if 1 ≤ month ∧ month ≤ 12 ∧ 1 ≤ day ∧ day ≤ daysInMonth year month then some rest else none

def afterTime? (text : List Char) : Option (List Char) := do
  let (hour, rest) ← fixedDigits? 2 text
  let (minute, rest) ← fixedDigits? 2 (← character? ':' rest)
  let (second, rest) ← fixedDigits? 2 (← character? ':' rest)
  if hour ≤ 23 ∧ minute ≤ 59 ∧ second ≤ 60 then
    match rest with
    | '.' :: fraction =>
        if (fraction.takeWhile Char.isDigit).isEmpty then none
        else some (fraction.dropWhile Char.isDigit)
    | rest => some rest
  else none

def isOffset : List Char → Bool
  | [] | ['Z'] | ['z'] => true
  | sign :: rest =>
      (sign = '+' || sign = '-') &&
        match fixedDigits? 2 rest with
        | some (hour, ':' :: rest) =>
            match fixedDigits? 2 rest with
            | some (minute, []) => hour ≤ 23 && minute ≤ 59
            | _ => false
        | _ => false

def isDate (text : List Char) : Bool :=
  match afterDate? text with
  | some [] => true
  | some (delimiter :: rest) =>
      (delimiter = 'T' || delimiter = 't' || delimiter = ' ') &&
        match afterTime? rest with
        | some rest => isOffset rest
        | none => false
  | none => afterTime? text == some []

def scalarOf? (text : List Char) : Option Toml :=
  if text = "true".toList then some (.boolean true)
  else if text = "false".toList then some (.boolean false)
  else
    match integerOf? text with
    | some value => some (.integer value)
    | none =>
        if isFloat text then some (.float (String.ofList text))
        else if isDate text then some (.date (String.ofList text))
        else none

end FieldMenu.Toml
