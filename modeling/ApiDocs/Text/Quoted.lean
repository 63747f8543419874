import ApiDocs.Text.Printable

namespace ApiDocs.Text

/-! Texts and bytes as messages quote them. -/

def hexDigits (width code : Nat) : List Char :=
  (Nat.toDigits 16 (Nat.pow 16 width + code % Nat.pow 16 width)).drop 1

/-- An apostrophe quotes a text, or a quotation mark when the text holds
apostrophes and no quotation mark. -/
def quoteMark (cs : List Char) : Char :=
  if cs.contains '\x27' && !cs.contains '\x22' then '\x22' else '\x27'

def escapeHidden (c : Char) : List Char :=
  let code := c.toNat
  if code < 0x100 then
    '\\' :: 'x' :: hexDigits 2 code
  else if code < 0x10000 then
    '\\' :: 'u' :: hexDigits 4 code
  else
    '\\' :: 'U' :: hexDigits 8 code

def escapeChar (mark c : Char) : List Char :=
  if c = mark || c = '\\' then
    ['\\', c]
  else if c = '\t' then
    ['\\', 't']
  else if c = '\n' then
    ['\\', 'n']
  else if c = '\r' then
    ['\\', 'r']
  else if isPrintable c then
    [c]
  else
    escapeHidden c

def quoteChars (cs : List Char) : List Char :=
  let mark := quoteMark cs
  mark :: (cs.flatMap (escapeChar mark) ++ [mark])

def quote (text : String) : String :=
  String.ofList (quoteChars text.toList)

def escapeByte (mark : Char) (byte : UInt8) : List Char :=
  if byte < 0x7F then
    escapeChar mark (Char.ofNat byte.toNat)
  else
    '\\' :: 'x' :: hexDigits 2 byte.toNat

def quoteBytes (bytes : List UInt8) : String :=
  let mark := quoteMark (bytes.map fun byte => Char.ofNat byte.toNat)
  String.ofList ('b' :: mark :: (bytes.flatMap (escapeByte mark) ++ [mark]))

end ApiDocs.Text
