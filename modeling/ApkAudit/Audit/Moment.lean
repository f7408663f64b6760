/-!
Moments by the seconds since the start of 1970, and their text with date, time and offset.
-/

namespace ApkAudit

structure Moment where
  seconds : Nat
  nanoseconds : Nat := 0
deriving DecidableEq, Repr

namespace Moment

/-- The year, month and day of a day, counted from the start of 1970.  Years are counted from March
on, so that a leap day is the last one. -/
def date (days : Nat) : Nat × Nat × Nat :=
  let shifted := days + 719468
  let ofEra := shifted % 146097
  let yearOfEra := (ofEra - ofEra / 1460 + ofEra / 36524 - ofEra / 146096) / 365
  let ofYear := ofEra - (365 * yearOfEra + yearOfEra / 4 - yearOfEra / 100)
  let march := (5 * ofYear + 2) / 153
  let month := if march < 10 then march + 3 else march - 9
  let year := yearOfEra + shifted / 146097 * 400 + if month ≤ 2 then 1 else 0
  (year, month, ofYear - (153 * march + 2) / 5 + 1)

def padded (width n : Nat) : String :=
  let digits := Nat.toDigits 10 n
  String.ofList (List.replicate (width - digits.length) '0' ++ digits)

def text (m : Moment) : String :=
  let (year, month, day) := date (m.seconds / 86400)
  let ofDay := m.seconds % 86400
  padded 4 year ++ "-" ++ padded 2 month ++ "-" ++ padded 2 day ++ "T" ++
    padded 2 (ofDay / 3600) ++ ":" ++ padded 2 (ofDay / 60 % 60) ++ ":" ++ padded 2 (ofDay % 60) ++
    "." ++ padded 9 m.nanoseconds ++ "+00:00"

def stamp (m : Moment) : String :=
  toString m.seconds ++ "." ++ padded 6 (m.nanoseconds / 1000)

example : (Moment.mk 951782400 0).text = "2000-02-29T00:00:00.000000000+00:00" := by decide +kernel

end Moment

end ApkAudit
