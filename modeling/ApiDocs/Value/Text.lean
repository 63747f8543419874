import ApiDocs.Text.Quoted
import ApiDocs.Value

namespace ApiDocs

/-! Values as messages and parameter lists show them. -/

namespace Date

def inspect (date : Date) : String :=
  s!"datetime.date({date.year}, {date.month}, {date.day})"

end Date

namespace Moment

def inspectDelta (seconds : Int) : String :=
  let days := seconds.fdiv 86400
  let rest := seconds.fmod 86400
  let parts := (if days = 0 then [] else [s!"days={days}"]) ++
    (if rest = 0 then [] else [s!"seconds={rest}"])
  "datetime.timedelta(" ++ ", ".intercalate parts ++ ")"

def inspectOffset (offset : Int) : String :=
  if offset = 0 then
    "datetime.timezone.utc"
  else
    "datetime.timezone(" ++ inspectDelta offset ++ ")"

def inspect (moment : Moment) : String :=
  let date := moment.date
  let seconds :=
    if moment.microsecond ≠ 0 then [moment.second, moment.microsecond]
    else if moment.second ≠ 0 then [moment.second]
    else []
  let numbers := [date.year, date.month, date.day, moment.hour, moment.minute] ++ seconds
  let offset := (moment.offset?.map fun offset => [s!"tzinfo={inspectOffset offset}"]).getD []
  "datetime.datetime(" ++ ", ".intercalate (numbers.map toString ++ offset) ++ ")"

end Moment

namespace Value

mutual

/-- A value as it is shown inside another one.  An integer has a text however long it is, where
the program has none beyond 4300 digits, and what is endless ends in dots. -/
def inspect : Value → String
  | null => "None"
  | bool value => if value then "True" else "False"
  | int value => toString value
  | float value => Decimal.floatText value
  | text value => Text.quote value
  | bytes value => Text.quoteBytes value
  | date value => value.inspect
  | moment value => value.inspect
  | list items => "[" ++ ", ".intercalate (inspectItems items) ++ "]"
  | pair first second => "(" ++ inspect first ++ ", " ++ inspect second ++ ")"
  | map entries => "\x7b" ++ ", ".intercalate (inspectEntries entries) ++ "\x7d"
  | set items =>
      match items with
      | [] => "set()"
      | first :: rest =>
          "\x7b" ++ ", ".intercalate (inspect first :: inspectItems rest) ++ "\x7d"
  | endless => "..."

def inspectItems : List Value → List String
  | [] => []
  | item :: rest => inspect item :: inspectItems rest

def inspectEntries : List (Value × Value) → List String
  | [] => []
  | (key, value) :: rest => (inspect key ++ ": " ++ inspect value) :: inspectEntries rest

end

def message : Value → String
  | text value => value
  | date value => value.text
  | moment value => value.text
  | value => value.inspect

def defaultText : Value → String
  | null => "null"
  | bool value => if value then "true" else "false"
  | text value => "\x22" ++ value ++ "\x22"
  | value => value.message

end Value

end ApiDocs
