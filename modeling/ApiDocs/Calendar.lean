namespace ApiDocs

/-! Dates and moments of the Gregorian calendar, carried back to its first year. -/

structure Date where
  year : Nat
  month : Nat
  day : Nat
  deriving DecidableEq, Repr

/-- A time of a day, perhaps with the seconds by which it is ahead of universal
time. -/
structure Moment where
  date : Date
  hour : Nat
  minute : Nat
  second : Nat
  microsecond : Nat
  offset? : Option Int
  deriving DecidableEq, Repr

namespace Calendar

def padded (width : Nat) (n : Nat) : String :=
  let digits := Nat.toDigits 10 n
  String.ofList (List.replicate (width - digits.length) '0' ++ digits)

def isLeap (year : Nat) : Bool :=
  year % 4 = 0 && (year % 100 ≠ 0 || year % 400 = 0)

def daysInMonth (year month : Nat) : Nat :=
  if month = 2 then
    if isLeap year then 29 else 28
  else if month = 4 || month = 6 || month = 9 || month = 11 then
    30
  else
    31

/-- The days from the first day of year 1 to a date. -/
def dayNumber (date : Date) : Nat :=
  let past := date.year - 1
  let months := (List.range (date.month - 1)).map fun m => daysInMonth date.year (m + 1)
  past * 365 + past / 4 - past / 100 + past / 400 + months.foldl (· + ·) 0 + date.day

end Calendar

namespace Date

def text (date : Date) : String :=
  s!"{Calendar.padded 4 date.year}-{Calendar.padded 2 date.month}-" ++
    Calendar.padded 2 date.day

end Date

namespace Moment

def offsetText (offset : Int) : String :=
  let size := offset.natAbs
  let sign := if offset < 0 then "-" else "+"
  let seconds := if size % 60 = 0 then "" else ":" ++ Calendar.padded 2 (size % 60)
  sign ++ Calendar.padded 2 (size / 3600) ++ ":" ++
    Calendar.padded 2 (size / 60 % 60) ++ seconds

def text (moment : Moment) : String :=
  let fraction :=
    if moment.microsecond = 0 then "" else "." ++ Calendar.padded 6 moment.microsecond
  s!"{moment.date.text} {Calendar.padded 2 moment.hour}:" ++
    s!"{Calendar.padded 2 moment.minute}:{Calendar.padded 2 moment.second}" ++
    fraction ++ (moment.offset?.map offsetText).getD ""

/-- The microseconds that passed before a moment, by universal time if its offset is
known. -/
def instant (moment : Moment) : Int :=
  let seconds : Int :=
    ((Calendar.dayNumber moment.date * 24 + moment.hour) * 60 + moment.minute) * 60 +
      moment.second
  (seconds - moment.offset?.getD 0) * 1000000 + moment.microsecond

/-- Moments are the same if they name one instant in the same way, with an offset or
without. -/
def same (left right : Moment) : Bool :=
  left.offset?.isSome = right.offset?.isSome && left.instant = right.instant

end Moment

end ApiDocs
