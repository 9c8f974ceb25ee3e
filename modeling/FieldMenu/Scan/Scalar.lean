import FieldMenu.Scan.Member

namespace FieldMenu.Scan

/-- Reads up to the closing quote of a string whose opening quote has been read, and returns its
raw content and what lies behind it. -/
def quoted? : (escaped : Bool) → (read : List Char) → List Char → Option (List Char × List Char)
  | _, _, [] => none
  | true, read, c :: rest => quoted? false (c :: read) rest
  | false, read, c :: rest =>
      if c = '"' then some (read.reverse, rest) else quoted? (c = '\\') (c :: read) rest

theorem quoted?_eq_some {escaped : Bool} {read text content rest : List Char}
    (h : quoted? escaped read text = some (content, rest)) :
    read.reverse ++ text = content ++ '"' :: rest := by
  induction text generalizing escaped read with
  | nil => cases escaped <;> simp [quoted?] at h
  | cons c tail ih =>
      have step {escaped : Bool} (later : quoted? escaped (c :: read) tail = some (content, rest)) :
          read.reverse ++ c :: tail = content ++ '"' :: rest := by
        simpa using ih later
      cases escaped with
      | true => exact step (by simpa only [quoted?] using h)
      | false =>
          simp only [quoted?] at h
          split at h
          · rename_i closes
            cases h
            rw [closes]
          · exact step h

/-- Takes back the two escapes, of the quote and of the backslash.  Any other backslash stands for
itself. -/
def unescape : List Char → List Char
  | '\\' :: '"' :: rest => '"' :: unescape rest
  | '\\' :: '\\' :: rest => '\\' :: unescape rest
  | c :: rest => c :: unescape rest
  | [] => []

def string? (text : List Char) (key : String) : Option String :=
  match valueText? text key with
  | some ('"' :: rest) => (quoted? false [] rest).map fun parts => String.ofList (unescape parts.1)
  | _ => none

/-- The truth value bound to `key`, in any ASCII letter case; what follows the word is ignored. -/
def flag (text : List Char) (key : String) (default : Bool) : Bool :=
  match valueText? text key with
  | none => default
  | some value =>
      if (afterLead? "true".toList value).isSome then true
      else if (afterLead? "false".toList value).isSome then false
      else default

def numberOf (digits : List Char) : Nat :=
  digits.foldl (fun number c => 10 * number + (c.toNat - '0'.toNat)) 0

def leadingInteger? (text : List Char) : Option Int :=
  let negative := text.head? = some '-'
  let digits := (if negative then text.tail else text).takeWhile Char.isDigit
  let number := numberOf digits
  if digits.isEmpty then none
  else if negative then if number ≤ 0x8000000000000000 then some (-number) else none
  else if number < 0x8000000000000000 then some number
  else none

/-- The integer bound to `key`; what follows the digits is ignored. -/
def integer (text : List Char) (key : String) (default : Int) : Int :=
  ((valueText? text key).bind leadingInteger?).getD default

end FieldMenu.Scan
