namespace ApiDocs.Text

/-! UTF-8 with the place and the cause of the first fault. -/

inductive Utf8Fault where
  | invalidStart
  | invalidContinuation
  | unexpectedEnd
  deriving DecidableEq, Repr

namespace Utf8Fault

def reason : Utf8Fault → String
  | invalidStart => "invalid start byte"
  | invalidContinuation => "invalid continuation byte"
  | unexpectedEnd => "unexpected end of data"

end Utf8Fault

/-- The first place where bytes are no UTF-8: the bytes at fault, the position
of the first of them and what is wrong. -/
structure Utf8Error where
  position : Nat
  bytes : List UInt8
  fault : Utf8Fault
  deriving DecidableEq, Repr

namespace Utf8Error

private def hexByte (byte : UInt8) : String :=
  String.ofList ((Nat.toDigits 16 (0x100 + byte.toNat)).drop 1)

def message (error : Utf8Error) : String :=
  match error.bytes with
  | [byte] =>
      s!"'utf-8' codec can't decode byte 0x{hexByte byte} in position " ++
        s!"{error.position}: {error.fault.reason}"
  | bytes =>
      s!"'utf-8' codec can't decode bytes in position " ++
        s!"{error.position}-{error.position + bytes.length - 1}: {error.fault.reason}"

end Utf8Error

def utf8Lead? (byte : UInt8) : Option (Nat × Nat × Nat) :=
  let b := byte.toNat
  if 0xC2 ≤ b && b ≤ 0xDF then some (0x80, 0xBF, 1)
  else if b == 0xE0 then some (0xA0, 0xBF, 2)
  else if b == 0xED then some (0x80, 0x9F, 2)
  else if 0xE1 ≤ b && b ≤ 0xEF then some (0x80, 0xBF, 2)
  else if b == 0xF0 then some (0x90, 0xBF, 3)
  else if b == 0xF4 then some (0x80, 0x8F, 3)
  else if 0xF1 ≤ b && b ≤ 0xF3 then some (0x80, 0xBF, 3)
  else none

/-- What is still owed of a character: the bytes read of it, the range of the
next byte and how many bytes are left. -/
structure Utf8Pending where
  position : Nat
  bytes : List UInt8
  value : Nat
  low : Nat
  high : Nat
  owed : Nat

def leadBits (byte : UInt8) (owed : Nat) : Nat :=
  byte.toNat % Nat.pow 2 (6 - owed)

def utf8Loop (out : List Char) (pending : Option Utf8Pending) (position : Nat) :
    List UInt8 → Except Utf8Error (List Char)
  | [] =>
      match pending with
      | none => .ok out.reverse
      | some p => .error ⟨p.position, p.bytes, .unexpectedEnd⟩
  | byte :: rest =>
      match pending with
      | some p =>
          if p.low ≤ byte.toNat && byte.toNat ≤ p.high then
            let value := p.value * 64 + byte.toNat % 64
            if p.owed ≤ 1 then
              utf8Loop (Char.ofNat value :: out) none (position + 1) rest
            else
              utf8Loop out
                (some ⟨p.position, p.bytes ++ [byte], value, 0x80, 0xBF, p.owed - 1⟩)
                (position + 1) rest
          else
            .error ⟨p.position, p.bytes, .invalidContinuation⟩
      | none =>
          if byte < 0x80 then
            utf8Loop (Char.ofNat byte.toNat :: out) none (position + 1) rest
          else
            match utf8Lead? byte with
            | none => .error ⟨position, [byte], .invalidStart⟩
            | some (low, high, owed) =>
                utf8Loop out (some ⟨position, [byte], leadBits byte owed, low, high, owed⟩)
                  (position + 1) rest

/-- Decodes UTF-8 strictly: no overlong form, no surrogate, nothing above U+10FFFF. -/
def decodeUtf8 (bytes : List UInt8) : Except Utf8Error (List Char) :=
  utf8Loop [] none 0 bytes

def utf8Bytes (c : Char) : List UInt8 :=
  let code := c.toNat
  let tail (shift : Nat) : UInt8 := UInt8.ofNat (0x80 + code / Nat.pow 2 shift % 64)
  if code < 0x80 then
    [UInt8.ofNat code]
  else if code < 0x800 then
    [UInt8.ofNat (0xC0 + code / Nat.pow 2 6), tail 0]
  else if code < 0x10000 then
    [UInt8.ofNat (0xE0 + code / Nat.pow 2 12), tail 6, tail 0]
  else
    [UInt8.ofNat (0xF0 + code / Nat.pow 2 18), tail 12, tail 6, tail 0]

def encodeUtf8 (text : String) : List UInt8 :=
  text.toList.flatMap utf8Bytes

end ApiDocs.Text
