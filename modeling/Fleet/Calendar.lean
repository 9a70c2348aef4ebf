import Fleet.Text.Digits

/-!
# Dates and times of day

Times are counted in milliseconds of the epoch, the start of the year 1970. They are shown by date
and time of day.
-/

namespace Fleet.Calendar

/-- A date. -/
structure Date where
  year : Nat
  month : Nat
  day : Nat
  deriving DecidableEq, Repr

/-- The days from the first of March of the year zero to the epoch. -/
def epochDay : Nat := 719468

/-- The days of 400 years. -/
def eraDays : Nat := 146097

/-- The date that lies a number of days after the epoch. Years are counted from March, so that a
leap day is the last day of its year. -/
def dateOfDay (day : Nat) : Date :=
  let shifted := day + epochDay
  let dayOfEra := shifted % eraDays
  let yearOfEra :=
    (dayOfEra - dayOfEra / 1460 + dayOfEra / 36524 - dayOfEra / (eraDays - 1)) / 365
  let dayOfYear := dayOfEra - (365 * yearOfEra + yearOfEra / 4 - yearOfEra / 100)
  let month := (5 * dayOfYear + 2) / 153
  let year := yearOfEra + 400 * (shifted / eraDays)
  { year := if month < 10 then year else year + 1
    month := if month < 10 then month + 3 else month - 9
    day := dayOfYear - (153 * month + 2) / 5 + 1 }

/-- A time in milliseconds of the epoch as it is shown. Milliseconds are shown unless they are
zero. -/
def describe (time : Nat) : String :=
  let date := dateOfDay (time / 86400000)
  let seconds := time / 1000 % 86400
  let fraction := time % 1000
  let pad (width number : Nat) : List Char := Text.paddedDigits width number
  String.ofList <|
    pad 4 date.year ++ '-' :: pad 2 date.month ++ '-' :: pad 2 date.day ++ 'T' ::
      pad 2 (seconds / 3600) ++ ':' :: pad 2 (seconds / 60 % 60) ++ ':' :: pad 2 (seconds % 60) ++
      (if fraction = 0 then [] else '.' :: pad 3 fraction) ++ ['Z']

example : describe 1709208000000 = "2024-02-29T12:00:00Z" := by decide +kernel

example : describe 1 = "1970-01-01T00:00:00.001Z" := by decide +kernel

end Fleet.Calendar
