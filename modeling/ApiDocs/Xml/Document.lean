import ApiDocs.Text.Utf8
import ApiDocs.Xml.Codec
import ApiDocs.Xml.Content
import ApiDocs.Xml.Declarations

namespace ApiDocs.Xml

/-! Documents: the encoding and the declaration first, then the root element. -/

structure Declaration where
  encoding? : Option (String × Position)
  standalone : Bool
  deriving Repr

namespace Declaration

structure Part where
  name : String
  namePosition : Position
  value : String
  valuePosition : Position
  deriving Repr

def isValueChar (c : Char) : Bool :=
  c.isAlphanum || c = '.' || c = '-' || c = '_'

def here (stop : Position) : List Located → Position
  | (_, position) :: _ => position
  | [] => stop

def value (stop : Position) (quote : Char) (rest : List Located) :
    Except Position (Scanned (List Located)) :=
  let (letters, more) := rest.span fun located => isValueChar located.1
  match more with
  | (c, position) :: behind => if c = quote then .ok (letters, behind) else .error position
  | [] => .error stop

def part? (stop : Position) (rest : List Located) :
    Except Position (Scanned (Option Part)) :=
  if rest.isEmpty then
    .ok (none, rest)
  else if !Scan.startsSpace rest then
    .error (here stop rest)
  else
    let rest := Scan.skipSpace rest
    if rest.isEmpty then
      .ok (none, rest)
    else
      let (letters, more) :=
        rest.span fun (c, _) => c != '=' && !isSpace c && c.toNat < 0x80
      match Scan.skipSpace more with
      | ('=', equals) :: more =>
          if letters.isEmpty then
            .error equals
          else
            match Scan.skipSpace more with
            | (c, position) :: more => do
                if c = '\x22' || c = '\x27' then
                  let (text, behind) ← value stop c more
                  .ok (some ⟨Located.text letters, here stop rest,
                    Located.text text, here stop more⟩, behind)
                else
                  .error position
            | [] => .error stop
      | other => .error (here stop other)

def lastPart (part : Part) (rest : List Located) :
    Except Position Bool :=
  if part.name != "standalone" then
    .error part.namePosition
  else if part.value != "yes" && part.value != "no" then
    .error part.valuePosition
  else
    match Scan.skipSpace rest with
    | [] => .ok (part.value = "yes")
    | (_, position) :: _ => .error position

/-- Reads a declaration whose end stands at `stop`: the version, then perhaps the
encoding, then perhaps whether the document stands alone. -/
def parse (stop : Position) (body : List Located) : Except Position Declaration := do
  let (first, rest) ← part? stop body
  match first with
  | none => .error (here stop rest)
  | some version =>
      if version.name != "version" then
        .error version.namePosition
      else
        let (second, rest) ← part? stop rest
        match second with
        | none => .ok ⟨none, false⟩
        | some part =>
            if part.name != "encoding" then
              .ok ⟨none, ← lastPart part rest⟩
            else if !(part.value.toList.head?.any Char.isAlpha) then
              .error part.valuePosition
            else
              let encoding := (part.value, part.valuePosition)
              let (third, rest) ← part? stop rest
              match third with
              | none => .ok ⟨some encoding, false⟩
              | some part => .ok ⟨some encoding, ← lastPart part rest⟩

end Declaration

/-- The characters of a document, located, and what is known of the document as a
whole. -/
structure Source where
  text : List Located
  bound : Bound
  standalone : Bool
  deriving Repr

namespace Source

def ofBytes (encoding : Encoding) (start : Position) (bytes : List UInt8) : Source :=
  let (chars, ending) := encoding.decode bytes
  let (located, stop) := Located.place start chars
  ⟨located, Bound.ofLocated ending stop located, false⟩

def declaredEncoding (encoding : Encoding) (obeyed : Bool) (declaration : Declaration) :
    Except Failure Encoding :=
  match declaration.encoding? with
  | none => .ok encoding
  | some (name, position) =>
      if obeyed then encoding.choose name position.line else .ok encoding

/-- The XML declaration in front of a document, if it has one: what it says or where it is
malformed, then its end and what follows it. -/
def declaration? (source : Source) :
    Option (Except Position Declaration × Position × List Located) :=
  match source.text with
  | ('<', position) :: ('?', _) :: rest =>
      match Instruction.scan ⟨source.bound, position.line⟩ rest with
      | .ok (.declaration body stop, behind) =>
          some (Declaration.parse stop body, stop, behind)
      | _ => none
  | _ => none

def afterDeclaration (encoding : Encoding) (obeyed : Bool) (start : Position)
    (bytes : List UInt8) : Except Failure Source := do
  let source := ofBytes encoding start bytes
  match source.declaration? with
  | none => .ok source
  | some (.error bad, _, _) => .error (.malformed ⟨.malformedDeclaration, bad.line⟩)
  | some (.ok declaration, stop, behind) =>
      let chosen ← declaredEncoding encoding obeyed declaration
      if chosen = encoding then
        .ok { source with text := behind, standalone := declaration.standalone }
      else
        let read := source.text.length - behind.length
        let bytes := bytes.drop (read * encoding.unitSize)
        .ok { ofBytes chosen ⟨stop.line, stop.column + 2⟩ bytes with
          standalone := declaration.standalone }

def element (source : Source) : Except Fault Element := do
  let fuel := source.bound.size + 1
  let (doctype, rest) ←
    (Declaring.prolog source.standalone fuel none).run source.bound |>.run source.text
  let (progress, rest) ← Content.root doctype source.bound rest
  Declaring.epilog source.bound fuel rest
  match Element.ofEvents progress.events.reverse with
  | some element => .ok element
  | none => .error ⟨.noElement, source.bound.line⟩

end Source

namespace Element

/-- Reads a document; `obeyed` tells whether the encoding that it declares counts. -/
def ofDocument (obeyed : Bool) (bytes : List UInt8) : Except Failure Element :=
  match Encoding.detect? bytes with
  | none => .error (.malformed ⟨.unclosedToken, 1⟩)
  | some (encoding, mark) => do
      let start : Position := ⟨1, if mark = 0 then 0 else 1⟩
      let source ← Source.afterDeclaration encoding obeyed start (bytes.drop mark)
      source.element.mapError .malformed

def ofBytes (bytes : List UInt8) : Except Failure Element :=
  ofDocument true bytes

def ofText (text : String) : Except Failure Element :=
  ofDocument false (Text.encodeUtf8 text)

end Element

end ApiDocs.Xml
