import ApiDocs.Value.Text
import ApiDocs.Yaml.Fault

namespace ApiDocs.Yaml

/-! Dates and moments in the text of scalars. -/

structure ClockTime where
  hour : Nat
  minute : Nat
  second : Nat
  microsecond : Nat
  offset? : Option Int
  deriving Repr

/-- A timestamp as written, which need not exist.  `padded` tells that month and day
have two digits each. -/
structure Timestamp where
  year : Nat
  month : Nat
  day : Nat
  padded : Bool
  time? : Option ClockTime
  deriving Repr

namespace Timestamp

def natural (digits : List Char) : Nat :=
  digits.foldl (fun n c => n * 10 + (c.toNat - 0x30)) 0

def digits? (least most : Nat) (cs : List Char) : Option (List Char × List Char) :=
  let digits := (cs.take most).takeWhile Char.isDigit
  if digits.length < least then none else some (digits, cs.drop digits.length)

def expect? (c : Char) : List Char → Option (List Char)
  | d :: rest => if d = c then some rest else none
  | [] => none

def isBlank (c : Char) : Bool :=
  c = ' ' || c = '\t'

def zone? (cs : List Char) : Option (Option Int) :=
  match cs with
  | [] => some none
  | _ =>
      match cs.dropWhile isBlank with
      | ['Z'] => some (some 0)
      | sign :: rest => do
          if sign != '+' && sign != '-' then
            none
          else
            let (hours, rest) ← digits? 1 2 rest
            let minutes ← match rest with
              | [] => some []
              | ':' :: rest => do
                  let (minutes, rest) ← digits? 2 2 rest
                  if rest.isEmpty then some minutes else none
              | _ => none
            let seconds : Int := (natural hours * 60 + natural minutes) * 60
            some (some (if sign = '-' then -seconds else seconds))
      | [] => none

def microseconds (digits : List Char) : Nat :=
  natural ((digits ++ List.replicate 6 '0').take 6)

def clock? (cs : List Char) : Option ClockTime := do
  let (hour, rest) ← digits? 1 2 cs
  let (minute, rest) ← digits? 2 2 (← expect? ':' rest)
  let (second, rest) ← digits? 2 2 (← expect? ':' rest)
  let (fraction, rest) := match rest with
    | '.' :: rest => (rest.takeWhile Char.isDigit, rest.dropWhile Char.isDigit)
    | _ => ([], rest)
  let offset? ← zone? rest
  some ⟨natural hour, natural minute, natural second, microseconds fraction, offset?⟩

def parse? (cs : List Char) : Option Timestamp := do
  let (year, rest) ← digits? 4 4 cs
  let (month, rest) ← digits? 1 2 (← expect? '-' rest)
  let (day, rest) ← digits? 1 2 (← expect? '-' rest)
  let padded := month.length = 2 && day.length = 2
  let dated (time? : Option ClockTime) : Timestamp :=
    ⟨natural year, natural month, natural day, padded, time?⟩
  match rest with
  | [] => some (dated none)
  | c :: more =>
      if c = 'T' || c = 't' then
        (clock? more).map fun time => dated (some time)
      else if isBlank c then
        (clock? (more.dropWhile isBlank)).map fun time => dated (some time)
      else
        none

/-- Whether a plain scalar is a timestamp: a date alone has two digits for month and
day. -/
def isTimestamp (cs : List Char) : Bool :=
  match parse? cs with
  | some stamp => stamp.padded || stamp.time?.isSome
  | none => false

def date (stamp : Timestamp) : Except Fault Date :=
  if stamp.year = 0 then
    .error (.yearOutOfRange stamp.year)
  else if stamp.month = 0 || 12 < stamp.month then
    .error .monthOutOfRange
  else if stamp.day = 0 || Calendar.daysInMonth stamp.year stamp.month < stamp.day then
    .error .dayOutOfRange
  else
    .ok ⟨stamp.year, stamp.month, stamp.day⟩

def checkOffset (offset : Int) : Except Fault Unit :=
  if offset.natAbs < 86400 then .ok ()
  else .error (.offsetOutOfRange (Moment.inspectDelta offset))

def value (stamp : Timestamp) : Except Fault Value :=
  match stamp.time? with
  | none => stamp.date.map .date
  | some time => do
      (time.offset?.map checkOffset).getD (.ok ())
      let date ← stamp.date
      if 23 < time.hour then
        .error .hourOutOfRange
      else if 59 < time.minute then
        .error .minuteOutOfRange
      else if 59 < time.second then
        .error .secondOutOfRange
      else
        .ok (.moment ⟨date, time.hour, time.minute, time.second, time.microsecond,
          time.offset?⟩)

end Timestamp

end ApiDocs.Yaml
