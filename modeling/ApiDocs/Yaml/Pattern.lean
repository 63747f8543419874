import ApiDocs.Text.Digit

namespace ApiDocs.Yaml.Pattern

/-! The forms of plain scalars that are no mere text. -/

def isDigitOrLine (c : Char) : Bool :=
  c.isDigit || c = '_'

def unsigned : List Char → List Char
  | '+' :: rest => rest
  | '-' :: rest => rest
  | cs => cs

def dropBreak (cs : List Char) : List Char :=
  if cs.getLast? = some '\n' then cs.dropLast else cs

def isNull (text : String) : Bool :=
  ["~", "null", "Null", "NULL"].contains text

def isTruth (text : String) : Bool :=
  ["yes", "Yes", "YES", "no", "No", "NO", "true", "True", "TRUE", "false", "False",
    "FALSE", "on", "On", "ON", "off", "Off", "OFF"].contains text

def isDigits : List Char → Bool
  | [] => false
  | c :: rest => c.isDigit && rest.all isDigitOrLine

def isSixtieth : List Char → Bool
  | [c] => c.isDigit
  | [c, d] => '0' ≤ c && c ≤ '5' && d.isDigit
  | _ => false

def areSixtieths : Nat → List Char → Bool
  | 0, _ => false
  | fuel + 1, ':' :: rest =>
      let part := rest.takeWhile (· != ':')
      let more := rest.dropWhile (· != ':')
      isSixtieth part && (more.isEmpty || areSixtieths fuel more)
  | _, _ => false

def isSexagesimal (cs : List Char) : Bool :=
  isDigits (cs.takeWhile (· != ':')) &&
    areSixtieths (cs.length + 1) (cs.dropWhile (· != ':'))

def isInteger (cs : List Char) : Bool :=
  match unsigned cs with
  | '0' :: 'b' :: rest => !rest.isEmpty && rest.all fun c => c = '0' || c = '1' || c = '_'
  | '0' :: 'x' :: rest => !rest.isEmpty && rest.all fun c => Text.isHexDigit c || c = '_'
  | '0' :: rest => rest.all fun c => ('0' ≤ c && c ≤ '7') || c = '_'
  | rest => isDigits rest || isSexagesimal rest

def isExponentOrEmpty : List Char → Bool
  | [] => true
  | e :: sign :: digits =>
      (e = 'e' || e = 'E') && (sign = '+' || sign = '-') && !digits.isEmpty &&
        digits.all Char.isDigit
  | _ => false

/-- A number with a point.  One that starts with its point has no sign. -/
def isFloat (cs : List Char) : Bool :=
  let bare := unsigned cs
  let whole := bare.takeWhile (· != '.')
  match bare.dropWhile (· != '.') with
  | '.' :: rest =>
      let behind := rest.dropWhile isDigitOrLine
      if whole.isEmpty then
        ["inf", "Inf", "INF"].contains (String.ofList rest) ||
          (bare = cs && (["nan", "NaN", "NAN"].contains (String.ofList rest) ||
            (isDigits (rest.takeWhile isDigitOrLine) && isExponentOrEmpty behind)))
      else
        (isDigits whole && isExponentOrEmpty behind) ||
          (isSexagesimal whole && behind.isEmpty)
  | _ => false

end ApiDocs.Yaml.Pattern
