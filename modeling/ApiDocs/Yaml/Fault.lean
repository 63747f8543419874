import ApiDocs.Text.Quoted

namespace ApiDocs.Yaml

/-! What is wrong with documents, and how messages put it. -/

/-- Why a document has no value: it is malformed, or a scalar in it denotes nothing.
`halfCharacter` is an escape of a surrogate, which no text can hold here, and `endless` a
scalar that is looked for from default to default without an end. -/
inductive Fault where
  | malformed
  | badInteger (base : Nat) (text : String)
  | longInteger (digits : Nat)
  | badFloat (text : String)
  | emptyNumber
  | unknownTruth (word : String)
  | noTimestamp
  | yearOutOfRange (year : Nat)
  | monthOutOfRange
  | dayOutOfRange
  | hourOutOfRange
  | minuteOutOfRange
  | secondOutOfRange
  | offsetOutOfRange (text : String)
  | timestampInMapping
  | characterOutOfRange
  | characterOverflow
  | halfCharacter
  | weightOverflow
  | endless
  deriving DecidableEq, Repr

namespace Fault

def message? : Fault → Option String
  | malformed => none
  | badInteger base text =>
      let shown := String.ofList ((Text.quoteChars text.toList).take 200)
      some s!"invalid literal for int() with base {base}: {shown}"
  | longInteger digits =>
      some (s!"Exceeds the limit (4300 digits) for integer string conversion: value has " ++
        s!"{digits} digits; use sys.set_int_max_str_digits() to increase the limit")
  | badFloat text => some s!"could not convert string to float: {Text.quote text}"
  | emptyNumber => some "string index out of range"
  | unknownTruth word => some (Text.quote word)
  | noTimestamp => some "'NoneType' object has no attribute 'groupdict'"
  | yearOutOfRange year => some s!"year {year} is out of range"
  | monthOutOfRange => some "month must be in 1..12"
  | dayOutOfRange => some "day is out of range for month"
  | hourOutOfRange => some "hour must be in 0..23"
  | minuteOutOfRange => some "minute must be in 0..59"
  | secondOutOfRange => some "second must be in 0..59"
  | offsetOutOfRange text =>
      some ("offset must be a timedelta strictly between -timedelta(hours=24) and " ++
        "timedelta(hours=24), not " ++ text ++ ".")
  | timestampInMapping => some "expected string or bytes-like object, got 'list'"
  | characterOutOfRange => some "chr() arg not in range(0x110000)"
  | characterOverflow => some "Python int too large to convert to C int"
  | halfCharacter => some "half a character"
  | weightOverflow => some "int too large to convert to float"
  | endless => some "maximum recursion depth exceeded"

/-- Faults that the program meets by chance: no part of it knows them. -/
def isUnforeseen : Fault → Bool
  | emptyNumber => true
  | unknownTruth _ => true
  | noTimestamp => true
  | timestampInMapping => true
  | characterOverflow => true
  | weightOverflow => true
  | endless => true
  | _ => false

end Fault

end ApiDocs.Yaml
