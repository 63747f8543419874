import ApiDocs.Decimal.Integer
import ApiDocs.Decimal.Reading
import ApiDocs.Text.Split
import ApiDocs.Yaml.Fault

namespace ApiDocs.Yaml.Literal

/-! Numbers, truth values and bytes in the text of scalars. -/

def dropUnderscores (cs : List Char) : List Char :=
  cs.filter (· != '_')

def splitSign : List Char → Bool × List Char
  | '-' :: rest => (true, rest)
  | '+' :: rest => (false, rest)
  | cs => (false, cs)

def negateIf {α : Type} [Neg α] (negative : Bool) (x : α) : α :=
  if negative then -x else x

def decimal (cs : List Char) : Except Fault Int :=
  let text := String.ofList cs
  match Decimal.integer text with
  | .ok value => .ok value
  | .error .malformed => .error (.badInteger 10 text)
  | .error (.tooLong digits) => .error (.longInteger digits)

def letterValue? (c : Char) : Option Nat :=
  if c.isAlpha then some (c.toLower.toNat - 0x61 + 10) else Text.digitValue? c

def baseLetter (base : Nat) : Char :=
  if base = 2 then 'b' else if base = 8 then 'o' else 'x'

def dropBaseMark (base : Nat) : List Char → List Char
  | '0' :: letter :: rest =>
      if letter.toLower = baseLetter base then rest else '0' :: letter :: rest
  | cs => cs

/-- What a literal holds between its blanks, with the digits of other scripts as those of
ASCII. -/
def plainLiteral (cs : List Char) : List Char :=
  ((cs.dropWhile Decimal.isPadding).reverse.dropWhile Decimal.isPadding).reverse.map fun c =>
    ((Text.digitValue? c).map Nat.digitChar).getD c

def inBase (base : Nat) (cs : List Char) : Except Fault Int :=
  let (negative, bare) := splitSign (plainLiteral cs)
  let digits := dropBaseMark base bare
  let values := digits.filterMap fun c => (letterValue? c).filter (· < base)
  if digits.isEmpty || values.length < digits.length then
    .error (.badInteger base (String.ofList cs))
  else
    .ok (negateIf negative (values.foldl (fun n d => n * base + d) 0 : Nat))

def integer (text : String) : Except Fault Int := do
  let cs := dropUnderscores text.toList
  let (negative, bare) := splitSign cs
  match bare with
  | [] => .error .emptyNumber
  | ['0'] => .ok 0
  | '0' :: 'b' :: rest => (inBase 2 rest).map (negateIf negative)
  | '0' :: 'x' :: rest => (inBase 16 rest).map (negateIf negative)
  | '0' :: _ => (inBase 8 bare).map (negateIf negative)
  | _ =>
      if bare.contains ':' then do
        let parts ← (Text.splitChars ':' bare).mapM decimal
        .ok (negateIf negative (parts.foldl (fun n part => n * 60 + part) 0))
      else
        (decimal bare).map (negateIf negative)

def infinity : Float := 1.0 / 0.0

def notANumber : Float := 0.0 / 0.0

def number (cs : List Char) : Except Fault Float :=
  let literal := plainLiteral cs
  let (negative, bare) := splitSign literal
  let word := String.ofList bare
  if word = "inf" || word = "infinity" then
    .ok (negateIf negative infinity)
  else if word = "nan" then
    .ok notANumber
  else
    match Decimal.float? literal with
    | some x => .ok x
    | none => .error (.badFloat (String.ofList cs))

/-- Adds up the parts of a number to the base 60, the last first; each part counts
`weight` times and those before it sixty times as much.  No float holds a weight of
2 ^ 1024. -/
def sumSixtieths (weight : Nat) (sum : Float) : List Float → Except Fault Float
  | [] => .ok sum
  | part :: rest =>
      if 2 ^ 1024 ≤ weight then
        .error .weightOverflow
      else
        sumSixtieths (weight * 60) (sum + part * Float.ofNat weight) rest

def float (text : String) : Except Fault Float := do
  let cs := (dropUnderscores text.toList).map Char.toLower
  let (negative, bare) := splitSign cs
  if cs.isEmpty then
    .error .emptyNumber
  else if String.ofList bare = ".inf" then
    .ok (negateIf negative infinity)
  else if String.ofList bare = ".nan" then
    .ok notANumber
  else if bare.contains ':' then do
    let parts ← (Text.splitChars ':' bare).mapM number
    (sumSixtieths 1 0 parts.reverse).map (negateIf negative)
  else
    (number bare).map (negateIf negative)

def truth (text : String) : Except Fault Bool :=
  let word := String.ofList (text.toList.map Char.toLower)
  if word = "yes" || word = "true" || word = "on" then .ok true
  else if word = "no" || word = "false" || word = "off" then .ok false
  else .error (.unknownTruth word)

def sixBits? (c : Char) : Option Nat :=
  if c.isUpper then some (c.toNat - 65)
  else if c.isLower then some (c.toNat - 71)
  else if c.isDigit then some (c.toNat + 4)
  else if c = '+' then some 62
  else if c = '/' then some 63
  else none

/-- Reads base 64.  `place` counts the characters of the group at hand, `left` holds
the bits of the last that make no byte yet, and `pads` counts the padding behind it.
Other characters are passed over. -/
def bytesOf (place left pads : Nat) (out : List UInt8) : List Char → Option (List UInt8)
  | [] => if place = 0 then some out.reverse else none
  | '=' :: rest =>
      if 2 ≤ place then
        if 4 ≤ place + pads + 1 then some out.reverse
        else bytesOf place left (pads + 1) out rest
      else
        bytesOf place left pads out rest
  | c :: rest =>
      match sixBits? c, place with
      | none, _ => bytesOf place left pads out rest
      | some bits, 0 => bytesOf 1 bits 0 out rest
      | some bits, 1 => bytesOf 2 (bits % 16) 0 (UInt8.ofNat (left * 4 + bits / 16) :: out) rest
      | some bits, 2 => bytesOf 3 (bits % 4) 0 (UInt8.ofNat (left * 16 + bits / 4) :: out) rest
      | some bits, _ => bytesOf 0 0 0 (UInt8.ofNat (left * 64 + bits) :: out) rest

def binary (text : String) : Except Fault (List UInt8) :=
  if text.toList.all fun c => c.toNat < 0x80 then
    match bytesOf 0 0 0 [] text.toList with
    | some bytes => .ok bytes
    | none => .error .malformed
  else
    .error .malformed

end ApiDocs.Yaml.Literal
