import ProcessControl.Text.Decimal

namespace ProcessControl

-- Microseconds since the start of 1970.
structure Timestamp where
  micros : Nat
deriving DecidableEq, Repr

namespace Timestamp

structure Date where
  year : Nat
  month : Nat
  day : Nat
deriving DecidableEq, Repr

-- Days from the first of March of year 0 to the start of 1970.
def daysBefore1970 : Nat := 719468

-- The date that lies so many days after the start of 1970. Years are counted from March on, so that a leap day is
-- the last day of its year; 400 years always have the same number of days.
def dateAfter (days : Nat) : Date :=
  let all := days + daysBefore1970
  let inEra := all % 146097
  let yearInEra := (inEra - inEra / 1460 + inEra / 36524 - inEra / 146096) / 365
  let inYear := inEra - (365 * yearInEra + yearInEra / 4 - yearInEra / 100)
  let fromMarch := (5 * inYear + 2) / 153
  let month := if fromMarch < 10 then fromMarch + 3 else fromMarch - 9
  { year := yearInEra + all / 146097 * 400 + (if month ≤ 2 then 1 else 0)
    month
    day := inYear - (153 * fromMarch + 2) / 5 + 1 }

def padded (width n : Nat) : String :=
  let digits := Text.Decimal.digits n
  String.ofList (List.replicate (width - digits.length) '0' ++ digits)

def text (t : Timestamp) : String :=
  let seconds := t.micros / 1000000
  let date := dateAfter (seconds / 86400)
  let time := [seconds / 3600 % 24, seconds / 60 % 60, seconds % 60].map (padded 2)
  "-".intercalate [padded 4 date.year, padded 2 date.month, padded 2 date.day] ++ "T" ++ ":".intercalate time ++
    "." ++ padded 6 (t.micros % 1000000) ++ "Z"

end Timestamp

end ProcessControl
