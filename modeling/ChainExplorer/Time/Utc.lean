import ChainExplorer.Error.Query
import ChainExplorer.Words

/-!
# Block times as dates

A block time counts seconds since the start of 1970; records show it as a date of the Gregorian
calendar, up to the end of the year 9999. The calendar is counted in eras of four hundred years,
with the year beginning in March, so that the leap day is the last of a year.
-/

namespace ChainExplorer.Time

open ChainExplorer.Text

/-- Seconds in a day. -/
def daySeconds : Nat := 86400

/-- Days in four hundred years. -/
def eraDays : Nat := 146097

/-- A day of the calendar. -/
structure Date where
  year : Nat
  month : Nat
  day : Nat
  deriving DecidableEq, Repr

/-- The date so many days after the first of January 1970. -/
def Date.ofDays (days : Nat) : Date :=
  let shifted := days + 719468
  let era := shifted / eraDays
  let inEra := shifted % eraDays
  let yearOfEra := (inEra - inEra / 1460 + inEra / 36524 - inEra / 146096) / 365
  let inYear := inEra - (365 * yearOfEra + yearOfEra / 4 - yearOfEra / 100)
  let march := (5 * inYear + 2) / 153
  let month := if march < 10 then march + 3 else march - 9
  { year := yearOfEra + 400 * era + (if month ≤ 2 then 1 else 0)
    month := month
    day := inYear - (153 * march + 2) / 5 + 1 }

/-- A number in at least so many digits. -/
def digits (width n : Nat) : List Char := padLeft width (toDigits n)

/-- A date and a time of day, in universal time. -/
def utcText (seconds : Nat) : String :=
  let date := Date.ofDays (seconds / daySeconds)
  let inDay := seconds % daySeconds
  String.ofList (digits 4 date.year ++ '-' :: digits 2 date.month ++ '-' :: digits 2 date.day
    ++ 'T' :: digits 2 (inDay / 3600) ++ ':' :: digits 2 (inDay / 60 % 60)
    ++ ':' :: digits 2 (inDay % 60) ++ ['Z'])

/-- The last second of the year 9999. -/
def lastSecond : Nat := 253402300799

/-- What stands for the time of a transaction outside a block. -/
def unconfirmedText : String := "unconfirmed"

/-- The text of a block time. -/
def blockTime (seconds : UInt64) : Except BlockTimeFault String :=
  if seconds = 0 then .ok unconfirmedText
  else if seconds.toNat ≤ lastSecond then .ok (utcText seconds.toNat)
  else if seconds.toNat < signedBound then .error .pastCalendar
  else .error (.tooLarge seconds.toNat)

end ChainExplorer.Time
