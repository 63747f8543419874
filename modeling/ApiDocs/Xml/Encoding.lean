import ApiDocs.Text.Utf8

namespace ApiDocs.Xml

/-! Encodings: how bytes are told apart and which characters they are. -/

/-- How the characters of a document come to an end: `halfUnit` leaves one byte
of a 16-bit unit, `malformed` bytes that denote nothing, and `truncated` the
first bytes of a character whose others are missing. -/
inductive Ending where
  | complete
  | halfUnit
  | malformed
  | truncated
  deriving DecidableEq, Repr

/-- Encodings.  `hz` is ASCII without the tilde, and a `page` is ASCII with 128 characters
more. -/
inductive Encoding where
  | utf8
  | utf16 (bigEndian : Bool)
  | latin1
  | ascii
  | hz
  | page (upper : String)
  deriving DecidableEq, Repr

namespace Encoding

def unitSize : Encoding → Nat
  | utf16 _ => 2
  | _ => 1

/-- The characters of the bytes from 0x80 on, in an encoding of single bytes.  A byte that
stands for none has the replacement character. -/
def upper : Encoding → List Char
  | latin1 => (List.range 128).map fun byte => Char.ofNat (0x80 + byte)
  | page text => text.toList
  | _ => []

def byteChar? (encoding : Encoding) (upper : List Char) (byte : UInt8) : Option Char :=
  let code := byte.toNat
  if 0x80 ≤ code then
    upper[code - 0x80]?.filter (· ≠ '\ufffd')
  else if encoding = hz && code = 0x7E then
    none
  else
    some (Char.ofNat code)

def decodeBytes (encoding : Encoding) (upper out : List Char) :
    List UInt8 → List Char × Ending
  | [] => (out.reverse, .complete)
  | byte :: rest =>
      match encoding.byteChar? upper byte with
      | some c => decodeBytes encoding upper (c :: out) rest
      | none => (out.reverse, .malformed)

def announced? (byte : UInt8) : Option Nat :=
  if byte < 0x80 then some 1
  else if byte < 0xC0 then none
  else if byte < 0xE0 then some 2
  else if byte < 0xF0 then some 3
  else if byte < 0xF5 then some 4
  else none

def decodeUtf8 (out : List Char) (skip : Nat) : List UInt8 → List Char × Ending
  | [] => (out.reverse, .complete)
  | byte :: rest =>
      match skip with
      | left + 1 => decodeUtf8 out left rest
      | 0 =>
          match announced? byte with
          | none => (out.reverse, .malformed)
          | some count =>
              let bytes := byte :: rest.take (count - 1)
              if bytes.length < count then
                (out.reverse, .truncated)
              else
                match Text.decodeUtf8 bytes with
                | .ok [c] => decodeUtf8 (c :: out) (count - 1) rest
                | _ => (out.reverse, .malformed)

def unit (bigEndian : Bool) (first second : UInt8) : Nat :=
  if bigEndian then first.toNat * 256 + second.toNat
  else second.toNat * 256 + first.toNat

/-- Reads UTF-16.  The unit after a high surrogate gives its low ten bits,
whatever it is. -/
def decodeUtf16 (bigEndian : Bool) (out : List Char) : List UInt8 → List Char × Ending
  | first :: second :: rest =>
      let code := unit bigEndian first second
      if 0xD800 ≤ code && code < 0xDC00 then
        match rest with
        | third :: fourth :: rest =>
            let low := unit bigEndian third fourth % 0x400
            decodeUtf16 bigEndian
              (Char.ofNat (0x10000 + code % 0x400 * 0x400 + low) :: out) rest
        | _ => (out.reverse, .truncated)
      else if 0xDC00 ≤ code && code < 0xE000 then
        (out.reverse, .malformed)
      else
        decodeUtf16 bigEndian (Char.ofNat code :: out) rest
  | [_] => (out.reverse, .halfUnit)
  | [] => (out.reverse, .complete)

def decode (encoding : Encoding) (bytes : List UInt8) : List Char × Ending :=
  match encoding with
  | utf8 => decodeUtf8 [] 0 bytes
  | utf16 bigEndian => decodeUtf16 bigEndian [] bytes
  | single => decodeBytes single single.upper [] bytes

/-- The encoding that the first bytes reveal, and how many of them are a byte
order mark.  Nothing is revealed when more bytes are needed to tell. -/
def detect? : List UInt8 → Option (Encoding × Nat)
  | [] => some (utf8, 0)
  | [byte] =>
      if byte == 0xFE || byte == 0xFF || byte == 0xEF || byte == 0 || byte == 0x3C then
        none
      else
        some (utf8, 0)
  | first :: second :: rest =>
      if first == 0xFE && second == 0xFF then
        some (utf16 true, 2)
      else if first == 0xFF && second == 0xFE then
        some (utf16 false, 2)
      else if first == 0xEF && second == 0xBB then
        match rest with
        | [] => none
        | third :: _ => some (utf8, if third == 0xBF then 3 else 0)
      else if first == 0 then
        some (utf16 true, 0)
      else if second == 0 then
        some (utf16 false, 0)
      else
        some (utf8, 0)

end Encoding

end ApiDocs.Xml
