import ApiDocs.Decimal.Integer
import ApiDocs.Text.Utf8
import ApiDocs.Yaml.Scalar

namespace ApiDocs.Yaml

/-! Anchors, aliases, tags and directives. -/

inductive Directive where
  | version (major minor : Nat)
  | tag (handle tagPrefix : String)
  | other
  deriving DecidableEq, Repr

namespace Property

def isWordChar (c : Char) : Bool :=
  c.isAlphanum || c = '-' || c = '_'

def word (cursor : Cursor) : Except Fault (String × Cursor) :=
  let (letters, cursor) := cursor.takeWhile isWordChar
  if letters.isEmpty then .error .malformed else .ok (String.ofList letters, cursor)

def spaced (cursor : Cursor) : Except Fault Unit :=
  if cursor.peek = some ' ' || isBreakOrEnd cursor.peek then .ok () else .error .malformed

def anchor (cursor : Cursor) : Except Fault (String × Cursor) := do
  let (name, cursor) ← word cursor
  if isBlankOrEnd cursor.peek || cursor.peek.any fun c => "?:,]\x7d%@\x60".toList.contains c then
    .ok (name, cursor)
  else
    .error .malformed

/-- Reads a tag handle: an exclamation mark alone or a word between two. -/
def handle (cursor : Cursor) : Except Fault (String × Cursor) :=
  if cursor.peek != some '!' then
    .error .malformed
  else if cursor.peekAt 1 = some ' ' then
    .ok ("!", cursor.next)
  else
    let (letters, after) := cursor.next.takeWhile isWordChar
    if after.peek = some '!' then
      .ok (String.ofList ('!' :: letters ++ ['!']), after.next)
    else
      .error .malformed

def isUriChar (c : Char) : Bool :=
  c.isAlphanum || "-;/?:@&=+$,_.!~*\x27()[]".toList.contains c

def percentBytes : Nat → List UInt8 → Cursor → Except Fault (List UInt8 × Cursor)
  | 0, out, cursor => .ok (out.reverse, cursor)
  | fuel + 1, out, cursor =>
      match cursor.rest with
      | '%' :: rest =>
          match Scalar.hexNumber? 2 rest with
          | some byte => percentBytes fuel (UInt8.ofNat byte :: out) (cursor.skip 3)
          | none => .error .malformed
      | _ => .ok (out.reverse, cursor)

def uri : Nat → List Char → Cursor → Except Fault (String × Cursor)
  | 0, _, _ => .error .malformed
  | fuel + 1, out, cursor =>
      let (letters, cursor) := cursor.takeWhile isUriChar
      let out := letters.reverse ++ out
      if cursor.peek = some '%' then do
        let (bytes, cursor) ← percentBytes cursor.fuel [] cursor
        match Text.decodeUtf8 bytes with
        | .ok text => uri fuel (text.reverse ++ out) cursor
        | .error _ => .error .malformed
      else if out.isEmpty then
        .error .malformed
      else
        .ok (String.ofList out.reverse, cursor)

def hasHandle (cs : List Char) : Bool :=
  (cs.takeWhile fun c => !(c = ' ' || isBreak c)).contains '!'

/-- Reads a tag at its exclamation mark: a handle, unless the tag is given in full,
and what follows it. -/
def tag (cursor : Cursor) : Except Fault ((Option String × String) × Cursor) := do
  let after := cursor.next
  let (found, cursor) ←
    if after.peek = some '<' then do
      let (suffix, after) ← uri after.fuel [] after.next
      if after.peek = some '>' then
        Except.ok ((none, suffix), after.next)
      else
        .error .malformed
    else if isBlankOrEnd after.peek then
      .ok ((none, "!"), after)
    else do
      let (handle, after) ←
        if hasHandle after.rest then handle cursor else .ok ("!", after)
      let (suffix, after) ← uri after.fuel [] after
      .ok ((some handle, suffix), after)
  spaced cursor
  .ok (found, cursor)

def number (cursor : Cursor) : Except Fault (Nat × Cursor) :=
  let (digits, cursor) := cursor.takeWhile Char.isDigit
  if digits.isEmpty then
    .error .malformed
  else if Decimal.maxDigits < digits.length then
    .error (.longInteger digits.length)
  else
    .ok (digits.foldl (fun n c => n * 10 + (c.toNat - 0x30)) 0, cursor)

def directive (cursor : Cursor) : Except Fault (Directive × Cursor) := do
  let (name, cursor) ← word cursor
  spaced cursor
  let (found, cursor) ←
    if name = "YAML" then do
      let (major, cursor) ← number cursor.skipSpaces
      if cursor.peek != some '.' then
        .error .malformed
      else
        let (minor, cursor) ← number cursor.next
        spaced cursor
        Except.ok (Directive.version major minor, cursor)
    else if name = "TAG" then do
      let (handle, cursor) ← handle cursor.skipSpaces
      if cursor.peek != some ' ' then
        .error .malformed
      else
        let cursor := cursor.skipSpaces
        let (tagPrefix, cursor) ← uri cursor.fuel [] cursor
        spaced cursor
        .ok (.tag handle tagPrefix, cursor)
    else
      .ok (.other, cursor.skipWhile (!isBreak ·))
  let cursor ← cursor.finishLine
  .ok (found, cursor)

end Property

end ApiDocs.Yaml
