namespace FieldMenu.Log

structure CalendarDate where
  year : Int
  month : Nat
  day : Nat
deriving DecidableEq, Repr

/-- The date so many days after 1 January 1970.  Years are counted from March, so that a leap day is
the last of its year; 400 years have 146097 days. -/
def dateOfDay (day : Int) : CalendarDate :=
  let shifted := day + 719468
  let era := Int.fdiv shifted 146097
  let dayOfEra := (shifted - era * 146097).toNat
  let yearOfEra :=
    (dayOfEra - dayOfEra / 1460 + dayOfEra / 36524 - dayOfEra / 146096) / 365
  let dayOfYear := dayOfEra - (365 * yearOfEra + yearOfEra / 4 - yearOfEra / 100)
  let marchMonth := (5 * dayOfYear + 2) / 153
  let month := if marchMonth < 10 then marchMonth + 3 else marchMonth - 9
  { year := yearOfEra + era * 400 + (if month ≤ 2 then 1 else 0)
    month := month
    day := dayOfYear - (153 * marchMonth + 2) / 5 + 1 }

def padded (width number : Nat) : String :=
  let digits := (toString number).toList
  String.ofList (List.replicate (width - digits.length) '0' ++ digits)

/-- A year of four digits; one before the year 0 or after 9999 carries its sign. -/
def yearText (year : Int) : String :=
  if year < 0 then "-" ++ padded 4 year.natAbs
  else if 9999 < year then "+" ++ toString year
  else padded 4 year.toNat

def secondText (milliseconds : Int) : String :=
  let days := Int.fdiv milliseconds 86400000
  let second := (milliseconds - days * 86400000).toNat / 1000
  let date := dateOfDay days
  yearText date.year ++ "-" ++ padded 2 date.month ++ "-" ++ padded 2 date.day ++ "T" ++
    padded 2 (second / 3600) ++ ":" ++ padded 2 (second / 60 % 60) ++ ":" ++ padded 2 (second % 60)

def instantText (milliseconds : Int) : String :=
  secondText milliseconds ++ "." ++ padded 3 (Int.fmod milliseconds 1000).toNat ++ "Z"

end FieldMenu.Log
