import ApiDocs.Text.Digit
import ApiDocs.Text.Newline
import ApiDocs.Xml.Char
import ApiDocs.Xml.Encoding
import ApiDocs.Xml.Fault
import ApiDocs.Xml.Position

namespace ApiDocs.Xml

/-! Pieces of markup: names, references, comments, tags and processing instructions. -/

/-- What lies behind the last character of a text, and the number of its
characters.  Character data that ends in a carriage return is complete in the line
of that return, `textLine`. -/
structure Bound where
  size : Nat
  ending : Ending
  line : Nat
  textLine : Nat
  deriving Repr

namespace Bound

def inLine (line : Nat) (text : List Located) : Bound :=
  ⟨text.length, .complete, line, line⟩

def ofLocated (ending : Ending) (stop : Position) (text : List Located) : Bound :=
  ⟨text.length, ending, stop.line,
    match text.getLast? with
    | some (c, position) => if c = '\r' then position.line else stop.line
    | none => stop.line⟩

def isClean (bound : Bound) : Bool :=
  bound.ending = .complete || bound.ending = .halfUnit

/-- The fault of a text that ends while a token that began in line `start` goes
on.  At a `strict` place, where only certain characters are in order, one that is
cut short is refused for what it is. -/
def cut (bound : Bound) (start : Nat) (strict : Bool) : Fault :=
  match bound.ending with
  | .complete => ⟨.unclosedToken, start⟩
  | .halfUnit => ⟨.unclosedToken, start⟩
  | .malformed => ⟨.invalidToken, bound.line⟩
  | .truncated =>
      if strict then ⟨.invalidToken, bound.line⟩ else ⟨.partialCharacter, start⟩

def missing (bound : Bound) : Fault :=
  match bound.ending with
  | .complete => ⟨.noElement, bound.line⟩
  | _ => bound.cut bound.line false

end Bound

structure Extent where
  bound : Bound
  start : Nat
  deriving Repr

def Extent.refuse (extent : Extent) (strict : Bool) (rest : List Located) : Fault :=
  match rest with
  | (_, position) :: _ => ⟨.invalidToken, position.line⟩
  | [] => extent.bound.cut extent.start strict

inductive Reference where
  | character (number : Nat)
  | entity (name : String)
  deriving DecidableEq, Repr

def characterNumber? (number : Nat) : Option Char :=
  let c := Char.ofNat number
  if c.toNat = number && isLegal c then some c else none

structure RawAttribute where
  name : String
  position : Position
  value : List Located
  deriving Repr

structure StartTag where
  name : String
  attributes : List RawAttribute
  empty : Bool
  deriving Repr

abbrev Scanned (α : Type) := α × List Located

namespace Scan

def startsSpace : List Located → Bool
  | (c, _) :: _ => isSpace c
  | [] => false

def skipSpace (rest : List Located) : List Located :=
  rest.dropWhile fun located => isSpace located.1

def nameChars (rest : List Located) : Scanned (List Located) :=
  rest.span fun located => isNameChar located.1

def expect (extent : Extent) (strict : Bool) (c : Char) (rest : List Located) :
    Except Fault (List Located) :=
  match rest with
  | located :: more =>
      if located.1 = c then .ok more else .error (extent.refuse strict rest)
  | [] => .error (extent.refuse strict rest)

def name (extent : Extent) (rest : List Located) :
    Except Fault (Scanned (List Located)) :=
  match rest with
  | first :: more =>
      if isNameStart first.1 then
        let (others, more) := nameChars more
        .ok (first :: others, more)
      else
        .error (extent.refuse false rest)
  | [] => .error (extent.refuse false rest)

def number (extent : Extent) (base : Nat) (isDigit : Char → Bool)
    (rest : List Located) : Except Fault (Scanned Reference) :=
  let (digits, more) := rest.span fun located => isDigit located.1
  if digits.isEmpty then
    .error (extent.refuse true rest)
  else do
    let more ← expect extent true ';' more
    .ok (.character (digits.foldl (fun n d => n * base + Text.hexDigitValue d.1) 0), more)

def reference (extent : Extent) (rest : List Located) :
    Except Fault (Scanned Reference) :=
  match rest with
  | ('#', _) :: ('x', _) :: digits => number extent 16 Text.isHexDigit digits
  | ('#', _) :: digits => number extent 10 Char.isDigit digits
  | _ => do
      let (entity, rest) ← name extent rest
      let rest ← expect extent false ';' rest
      .ok (.entity (Located.text entity), rest)

def comment (extent : Extent) (out : List Char) (rest : List Located) :
    Except Fault (Scanned String) :=
  match rest with
  | ('-', _) :: ('-', _) :: behind => do
      let behind ← expect extent true '>' behind
      .ok (String.ofList (Text.normalizeNewlines out.reverse), behind)
  | located :: behind =>
      if isLegal located.1 then
        comment extent (located.1 :: out) behind
      else
        .error (extent.refuse false rest)
  | [] => .error (extent.refuse false rest)

def value (extent : Extent) (quote : Char) (out : List Located) (rest : List Located) :
    Except Fault (Scanned (List Located)) :=
  match rest with
  | [] => .error (extent.refuse false rest)
  | located :: behind =>
      if located.1 = quote then
        .ok (out.reverse, behind)
      else if located.1 = '<' || !isLegal located.1 then
        .error (extent.refuse false rest)
      else if located.1 = '&' then
        match reference extent behind with
        | .error fault => .error fault
        | .ok _ => value extent quote (located :: out) behind
      else
        value extent quote (located :: out) behind

def rawAttribute (extent : Extent) (rest : List Located) :
    Except Fault (Scanned RawAttribute) := do
  let (letters, more) ← name extent rest
  let position := (letters.head?.map Prod.snd).getD Position.first
  let more ← expect extent (startsSpace more) '=' (skipSpace more)
  let more := skipSpace more
  match more with
  | (c, _) :: behind =>
      if c = '\x22' || c = '\x27' then
        let (text, behind) ← value extent c [] behind
        .ok (⟨Located.text letters, position, text⟩, behind)
      else
        .error (extent.refuse true more)
  | [] => .error (extent.refuse true more)

/-- Reads the rest of a start tag behind its name or an attribute.  `fuel` bounds
the number of attributes. -/
def attributes (extent : Extent) : Nat → List RawAttribute → List Located →
    Except Fault (Scanned (List RawAttribute × Bool))
  | 0, _, rest => .error (extent.refuse false rest)
  | fuel + 1, out, rest =>
      match skipSpace rest with
      | ('>', _) :: more => .ok ((out.reverse, false), more)
      | ('/', _) :: more => do
          let more ← expect extent true '>' more
          .ok ((out.reverse, true), more)
      | more =>
          if startsSpace rest then do
            let (raw, more) ← rawAttribute extent more
            attributes extent fuel (raw :: out) more
          else
            .error (extent.refuse (!out.isEmpty) more)

def startTag (extent : Extent) (rest : List Located) :
    Except Fault (Scanned StartTag) := do
  let (letters, rest) ← name extent rest
  let ((raws, empty), rest) ← attributes extent (extent.bound.size + 1) [] rest
  .ok (⟨Located.text letters, raws, empty⟩, rest)

def endTag (extent : Extent) (rest : List Located) :
    Except Fault (Scanned (List Located)) := do
  let (letters, rest) ← name extent rest
  let more ← expect extent (startsSpace rest) '>' (skipSpace rest)
  .ok (letters, more)

def instructionData (extent : Extent) (out : List Located) (rest : List Located) :
    Except Fault (Scanned (List Located × Position)) :=
  match rest with
  | ('?', position) :: ('>', _) :: behind => .ok ((out.reverse, position), behind)
  | located :: behind =>
      if isLegal located.1 then
        instructionData extent (located :: out) behind
      else
        .error (extent.refuse false rest)
  | [] => .error (extent.refuse false rest)

end Scan

/-- A processing instruction, or an XML declaration with the position of its end. -/
inductive Instruction where
  | plain (target data : String)
  | declaration (body : List Located) (stop : Position)
  deriving Repr

namespace Instruction

def ofParts (target : String) (data : List Located) (stop : Position) : Instruction :=
  if target = "xml" then
    .declaration data stop
  else
    .plain target
      (String.ofList (Text.normalizeNewlines (Located.chars (Scan.skipSpace data))))

def isReserved (target : String) : Bool :=
  target.toList.map Char.toLower = ['x', 'm', 'l'] && target != "xml"

def scan (extent : Extent) (rest : List Located) :
    Except Fault (Scanned Instruction) := do
  let (letters, more) ← Scan.name extent rest
  let target := Located.text letters
  match more with
  | [] => .error (extent.refuse false more)
  | (c, position) :: behind =>
      if isReserved target || (c != '?' && !isSpace c) then
        .error (extent.refuse false more)
      else if c = '?' then
        let behind ← Scan.expect extent true '>' behind
        .ok (ofParts target [] position, behind)
      else
        let ((data, stop), behind) ← Scan.instructionData extent [] more
        .ok (ofParts target data stop, behind)

end Instruction

end ApiDocs.Xml
