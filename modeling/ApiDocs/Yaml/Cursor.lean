import ApiDocs.Yaml.Fault

namespace ApiDocs.Yaml

/-! A place in a text, with its line and column. -/

def isBreak (c : Char) : Bool :=
  c = '\n' || c = '\r' || c.toNat = 0x85 || c.toNat = 0x2028 || c.toNat = 0x2029

def isBreakOrEnd : Option Char → Bool
  | some c => isBreak c
  | none => true

def isBlankOrEnd : Option Char → Bool
  | some c => c = ' ' || c = '\t' || isBreak c
  | none => true

/-- A place in a text: what follows, how many characters came before, and where
the place is.  `fuel` is more than the number of all characters. -/
structure Cursor where
  rest : List Char
  index : Nat
  line : Nat
  column : Nat
  fuel : Nat
  deriving Repr

namespace Cursor

def start (text : List Char) : Cursor :=
  ⟨text, 0, 0, 0, text.length + 1⟩

def peek (cursor : Cursor) : Option Char :=
  cursor.rest.head?

def peekAt (cursor : Cursor) (count : Nat) : Option Char :=
  cursor.rest[count]?

def next (cursor : Cursor) : Cursor :=
  match cursor.rest with
  | [] => cursor
  | c :: rest =>
      if isBreak c && !(c = '\r' && rest.head? = some '\n') then
        { cursor with rest, index := cursor.index + 1, line := cursor.line + 1, column := 0 }
      else
        { cursor with
          rest
          index := cursor.index + 1
          column := if c.toNat = 0xFEFF then cursor.column else cursor.column + 1 }

def skip : Nat → Cursor → Cursor
  | 0, cursor => cursor
  | count + 1, cursor => skip count cursor.next

def takeWhile (p : Char → Bool) (cursor : Cursor) : List Char × Cursor :=
  let taken := cursor.rest.takeWhile p
  (taken, cursor.skip taken.length)

def skipWhile (p : Char → Bool) (cursor : Cursor) : Cursor :=
  (cursor.takeWhile p).2

def skipSpaces (cursor : Cursor) : Cursor :=
  cursor.skipWhile (· = ' ')

def skipComment (cursor : Cursor) : Cursor :=
  if cursor.peek = some '#' then cursor.skipWhile (!isBreak ·) else cursor

/-- Passes the end of a line, if one stands here.  All of them count as line feeds
but the separators of lines and paragraphs. -/
def lineBreak? (cursor : Cursor) : Option (Char × Cursor) :=
  match cursor.rest with
  | '\r' :: '\n' :: _ => some ('\n', cursor.skip 2)
  | c :: _ =>
      if !isBreak c then none
      else if c.toNat = 0x2028 || c.toNat = 0x2029 then some (c, cursor.next)
      else some ('\n', cursor.next)
  | [] => none

def startsWithMark (cursor : Cursor) (mark : Char) : Bool :=
  match cursor.rest with
  | a :: b :: c :: rest => a = mark && b = mark && c = mark && isBlankOrEnd rest.head?
  | _ => false

def startsWithSeparator (cursor : Cursor) : Bool :=
  cursor.startsWithMark '-' || cursor.startsWithMark '.'

def finishLine (cursor : Cursor) : Except Fault Cursor :=
  let cursor := cursor.skipSpaces.skipComment
  match cursor.lineBreak? with
  | some (_, cursor) => .ok cursor
  | none => if cursor.rest.isEmpty then .ok cursor else .error .malformed

end Cursor

end ApiDocs.Yaml
