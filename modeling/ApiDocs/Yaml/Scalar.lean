import ApiDocs.Text.Digit
import ApiDocs.Yaml.Cursor

namespace ApiDocs.Yaml.Scalar

/-! Scalars in their five styles. -/

abbrev Read := Except Fault (List Char × Cursor)

def hexNumber? (count : Nat) (cs : List Char) : Option Nat :=
  let digits := cs.take count
  if digits.length = count && digits.all Text.isHexDigit then
    some (Text.hexValue digits)
  else
    none

def escapes : List (Char × Char) := [
  ('0', '\x00'), ('a', '\x07'), ('b', '\x08'), ('t', '\t'), ('\t', '\t'), ('n', '\n'),
  ('v', '\x0b'), ('f', '\x0c'), ('r', '\r'), ('e', '\x1b'), (' ', ' '), ('\x22', '\x22'),
  ('\\', '\\'), ('/', '/'), ('N', '\u0085'), ('_', '\u00a0'), ('L', '\u2028'),
  ('P', '\u2029')]

def codeLengths : List (Char × Nat) := [('x', 2), ('u', 4), ('U', 8)]

def characterOf (code : Nat) : Except Fault Char :=
  if 0x80000000 ≤ code then .error .characterOverflow
  else if 0x110000 ≤ code then .error .characterOutOfRange
  else if 0xD800 ≤ code && code < 0xE000 then .error .halfCharacter
  else .ok (Char.ofNat code)

def quotedBreaks : Nat → List Char → Cursor → Read
  | 0, out, cursor => .ok (out, cursor)
  | fuel + 1, out, cursor =>
      if cursor.startsWithSeparator then
        .error .malformed
      else
        let cursor := cursor.skipWhile fun c => c = ' ' || c = '\t'
        match cursor.lineBreak? with
        | some (c, cursor) => quotedBreaks fuel (c :: out) cursor
        | none => .ok (out, cursor)

/-- Adds the ends of lines to a text, last first.  A single line feed becomes a
space. -/
def fold (first : Char) (others out : List Char) : List Char :=
  if first = '\n' then
    if others.isEmpty then ' ' :: out else others ++ out
  else
    others ++ first :: out

def escape (out : List Char) (cursor : Cursor) : Read :=
  match cursor.peek with
  | none => .error .malformed
  | some c =>
      match escapes.lookup c, codeLengths.lookup c, cursor.lineBreak? with
      | some meaning, _, _ => .ok (meaning :: out, cursor.next)
      | none, some count, _ =>
          match hexNumber? count cursor.next.rest with
          | none => .error .malformed
          | some code => do
              let c ← characterOf code
              .ok (c :: out, cursor.next.skip count)
      | none, none, some (_, cursor) => do
          let (breaks, cursor) ← quotedBreaks cursor.fuel [] cursor
          .ok (breaks ++ out, cursor)
      | none, none, none => .error .malformed

def quoted (double : Bool) : Nat → List Char → Cursor → Read
  | 0, _, _ => .error .malformed
  | fuel + 1, out, cursor =>
      match cursor.rest with
      | [] => .error .malformed
      | '\x27' :: rest =>
          if double then
            quoted double fuel ('\x27' :: out) cursor.next
          else if rest.head? = some '\x27' then
            quoted double fuel ('\x27' :: out) (cursor.skip 2)
          else
            .ok (out.reverse, cursor.next)
      | '\x22' :: _ =>
          if double then
            .ok (out.reverse, cursor.next)
          else
            quoted double fuel ('\x22' :: out) cursor.next
      | '\\' :: _ =>
          if double then do
            let (out, cursor) ← escape out cursor.next
            quoted double fuel out cursor
          else
            quoted double fuel ('\\' :: out) cursor.next
      | c :: _ =>
          if isBlankOrEnd (some c) then
            let (blanks, after) := cursor.takeWhile fun c => c = ' ' || c = '\t'
            match after.lineBreak? with
            | some (first, after) => do
                let (breaks, after) ← quotedBreaks after.fuel [] after
                quoted double fuel (fold first breaks out) after
            | none =>
                if after.rest.isEmpty then
                  .error .malformed
                else
                  quoted double fuel (blanks.reverse ++ out) after
          else
            quoted double fuel (c :: out) cursor.next

/-- What stands between the lines of a plain scalar: its text, last first, or nothing
if the scalar ends; and whether a line ended. -/
structure Gap where
  text? : Option (List Char)
  broken : Bool
  cursor : Cursor
  deriving Repr

/-- Passes empty lines inside a plain scalar.  `none` tells that a document ends. -/
def plainBreaks : Nat → List Char → Cursor → Option (List Char) × Cursor
  | 0, out, cursor => (some out, cursor)
  | fuel + 1, out, cursor =>
      if cursor.peek = some ' ' then
        plainBreaks fuel out cursor.next
      else
        match cursor.lineBreak? with
        | none => (some out, cursor)
        | some (c, cursor) =>
            if cursor.startsWithSeparator then
              (none, cursor)
            else
              plainBreaks fuel (c :: out) cursor

def plainGap (cursor : Cursor) : Gap :=
  let (blanks, cursor) := cursor.takeWhile (· = ' ')
  match cursor.lineBreak? with
  | none => ⟨if blanks.isEmpty then none else some blanks, false, cursor⟩
  | some (first, cursor) =>
      if cursor.startsWithSeparator then
        ⟨none, true, cursor⟩
      else
        match plainBreaks cursor.fuel [] cursor with
        | (none, cursor) => ⟨none, true, cursor⟩
        | (some breaks, cursor) => ⟨some (fold first breaks []), true, cursor⟩

def endsPlain (inFlow : Bool) (c : Char) (after : Option Char) : Bool :=
  isBlankOrEnd (some c) ||
    (c = ':' && (isBlankOrEnd after ||
      (inFlow && (after.any fun d => ",[]\x7b\x7d".toList.contains d)))) ||
    (inFlow && ",?[]\x7b\x7d".toList.contains c)

def plainLength (inFlow : Bool) (count : Nat) : List Char → Nat
  | [] => count
  | c :: rest =>
      if endsPlain inFlow c rest.head? then count else plainLength inFlow (count + 1) rest

structure Plain where
  text : List Char
  broken : Bool
  cursor : Cursor
  deriving Repr

/-- Reads a plain scalar whose continuation lines start at column `indent` or later.
`out` and `gap` hold the text and the blanks behind it, last first. -/
def plain (inFlow : Bool) (indent : Int) :
    Nat → (broken : Bool) → (out gap : List Char) → Cursor → Plain
  | 0, broken, out, _, cursor => ⟨out.reverse, broken, cursor⟩
  | fuel + 1, broken, out, gap, cursor =>
      let length := plainLength inFlow 0 cursor.rest
      if cursor.peek = some '#' || length = 0 then
        ⟨out.reverse, broken, cursor⟩
      else
        let out := (cursor.rest.take length).reverse ++ gap ++ out
        match plainGap (cursor.skip length) with
        | ⟨none, broken, cursor⟩ => ⟨out.reverse, broken, cursor⟩
        | ⟨some gap, broken, cursor⟩ =>
            if cursor.peek = some '#' || (!inFlow && (cursor.column : Int) < indent) then
              ⟨out.reverse, broken, cursor⟩
            else
              plain inFlow indent fuel broken out gap cursor

inductive Chomping where
  | strip
  | clip
  | keep
  deriving DecidableEq, Repr

def chompingOf? (c : Option Char) : Option Chomping :=
  match c with
  | some '+' => some .keep
  | some '-' => some .strip
  | _ => none

def incrementOf? (cursor : Cursor) : Except Fault (Option Nat × Cursor) :=
  match cursor.peek with
  | some c =>
      if c = '0' then .error .malformed
      else if c.isDigit then .ok (some (c.toNat - 0x30), cursor.next)
      else .ok (none, cursor)
  | none => .ok (none, cursor)

def blockHeader (cursor : Cursor) : Except Fault (Chomping × Option Nat × Cursor) := do
  let (chomping, increment, cursor) ← match chompingOf? cursor.peek with
    | some chomping => do
        let (increment, cursor) ← incrementOf? cursor.next
        pure (chomping, increment, cursor)
    | none => do
        let (increment, cursor) ← incrementOf? cursor
        match increment, chompingOf? cursor.peek with
        | some _, some chomping => pure (chomping, increment, cursor.next)
        | _, _ => pure (Chomping.clip, increment, cursor)
  if cursor.peek = some ' ' || isBreakOrEnd cursor.peek then
    .ok (chomping, increment, cursor)
  else
    .error .malformed

/-- Passes the empty lines in front of a block scalar; also yields the greatest
column that spaces reach. -/
def blockIndentation : Nat → List Char → Nat → Cursor → List Char × Nat × Cursor
  | 0, out, widest, cursor => (out, widest, cursor)
  | fuel + 1, out, widest, cursor =>
      if cursor.peek = some ' ' then
        let cursor := cursor.next
        blockIndentation fuel out (max widest cursor.column) cursor
      else
        match cursor.lineBreak? with
        | some (c, cursor) => blockIndentation fuel (c :: out) widest cursor
        | none => (out, widest, cursor)

def skipTo (column : Nat) : Nat → Cursor → Cursor
  | 0, cursor => cursor
  | fuel + 1, cursor =>
      if cursor.column < column && cursor.peek = some ' ' then
        skipTo column fuel cursor.next
      else
        cursor

def blockBreaks (indent : Nat) : Nat → List Char → Cursor → List Char × Cursor
  | 0, out, cursor => (out, cursor)
  | fuel + 1, out, cursor =>
      let cursor := skipTo indent cursor.fuel cursor
      match cursor.lineBreak? with
      | some (c, cursor) => blockBreaks indent fuel (c :: out) cursor
      | none => (out, cursor)

/-- Reads the lines of a block scalar.  `out` holds the text and `breaks` the ends of
the empty lines behind it, last first; `last?` is the end of the last line. -/
def blockLines (folded : Bool) (indent : Nat) :
    Nat → (out breaks : List Char) → (last? : Option Char) → Cursor →
      List Char × List Char × Option Char × Cursor
  | 0, out, breaks, last?, cursor => (out, breaks, last?, cursor)
  | fuel + 1, out, breaks, last?, cursor =>
      if cursor.column != indent || cursor.rest.isEmpty then
        (out, breaks, last?, cursor)
      else
        let isIndented (c? : Option Char) : Bool := c? = some ' ' || c? = some '\t'
        let startsWithBlank := isIndented cursor.peek
        let (line, cursor) := cursor.takeWhile (!isBreak ·)
        let out := line.reverse ++ breaks ++ out
        let (last?, cursor) := match cursor.lineBreak? with
          | some (c, cursor) => (some c, cursor)
          | none => (none, cursor)
        let (breaks, cursor) := blockBreaks indent cursor.fuel [] cursor
        if cursor.column = indent && !cursor.rest.isEmpty then
          let joined :=
            if folded && last? = some '\n' && !startsWithBlank && !isIndented cursor.peek then
              if breaks.isEmpty then ' ' :: out else out
            else
              last?.toList ++ out
          blockLines folded indent fuel joined breaks none cursor
        else
          (out, breaks, last?, cursor)

def block (folded : Bool) (outer : Int) (cursor : Cursor) : Read := do
  let (chomping, increment, cursor) ← blockHeader cursor
  let cursor ← cursor.finishLine
  let least := max 1 (outer + 1).toNat
  let (indent, breaks, cursor) := match increment with
    | none =>
        let (breaks, widest, cursor) := blockIndentation cursor.fuel [] 0 cursor
        (max least widest, breaks, cursor)
    | some increment =>
        let indent := least + increment - 1
        let (breaks, cursor) := blockBreaks indent cursor.fuel [] cursor
        (indent, breaks, cursor)
  let (out, breaks, last?, cursor) :=
    blockLines folded indent cursor.fuel [] breaks none cursor
  let out := match chomping with
    | .strip => out
    | .clip => last?.toList ++ out
    | .keep => breaks ++ last?.toList ++ out
  .ok (out.reverse, cursor)

end ApiDocs.Yaml.Scalar
