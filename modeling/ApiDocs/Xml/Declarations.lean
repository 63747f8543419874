import ApiDocs.Xml.Doctype
import ApiDocs.Xml.Token

namespace ApiDocs.Xml

/-! Declarations in front of the root element.  A document type that names other files
leaves undefined entities without an error. -/

abbrev Declaring := ReaderT Bound (StateT (List Located) (Except Fault))

def Token.misplaced (token : Token) (line : Nat) : Fault :=
  match token with
  | .parameter _ => ⟨.illegalParameterReference, line⟩
  | .instruction (.declaration _ _) => ⟨.misplacedDeclaration, line⟩
  | _ => ⟨.syntaxError, line⟩

namespace Declaring

def next : Declaring (Token × Position) := fun bound rest =>
  match Scan.skipSpace rest with
  | [] => .error bound.missing
  | first :: more =>
      match Token.scan bound first more with
      | .ok (token, behind) => .ok ((token, first.2), behind)
      | .error fault => .error fault

def refuse {α : Type} (token : Token × Position) : Declaring α :=
  throw (token.1.misplaced token.2.line)

def fuel : Declaring Nat := do
  return (← read).size + 1

def word : Declaring String := do
  match ← next with
  | (.word text none, _) => return text
  | token => refuse token

def literal : Declaring (List Located × Position) := do
  match ← next with
  | (.literal value, position) => return (value, position)
  | token => refuse token

def closing : Declaring Unit := do
  match ← next with
  | (.closing, _) => return
  | token => refuse token

def isPublicIdChar (c : Char) : Bool :=
  c.isAlphanum || " \n\r-'()+,./:=?;!*#@$_%".toList.contains c

def publicId : Declaring Unit := do
  let (value, _) ← literal
  match value.find? fun located => !isPublicIdChar located.1 with
  | some (_, position) => throw ⟨.illegalPublicId, position.line⟩
  | none => return

def externalId (token : Token × Position) : Declaring Unit := do
  match token.1 with
  | .word "SYSTEM" none => discard literal
  | .word "PUBLIC" none => do
      publicId
      discard literal
  | _ => refuse token

def entity (doctype : Doctype) : Declaring Doctype := do
  let first ← next
  let name? ← match first.1 with
    | .percent => discard word; pure none
    | .word text none => pure (some text)
    | _ => refuse first
  let content ← next
  let found ← match content.1 with
    | .literal value => do
        if doctype.heeded then
          pure (Entity.internal (← Scan.entityText (value.length + 1) [] value))
        else
          pure Entity.external
    | _ => do
        externalId content
        pure Entity.external
  match ← next, content.1, name? with
  | (.closing, _), _, some name => return doctype.declareEntity name found
  | (.closing, _), _, none => return doctype
  | token, .literal _, _ => refuse token
  | (.word "NDATA" none, _), _, some name => do
      discard word
      closing
      return doctype.declareEntity name .binary
  | token, _, _ => refuse token

def notationRule : Declaring Unit := do
  discard word
  match ← next with
  | (.word "SYSTEM" none, _) => do
      discard literal
      closing
  | (.word "PUBLIC" none, _) => do
      publicId
      match ← next with
      | (.closing, _) => return
      | (.literal _, _) => closing
      | token => refuse token
  | token => refuse token

def choices (isChoice : Token → Bool) : Nat → Declaring Unit
  | 0 => return
  | fuel + 1 => do
      let token ← next
      if !isChoice token.1 then
        refuse token
      match ← next with
      | (.closeParen none, _) => return
      | (.bar, _) => choices isChoice fuel
      | token => refuse token

def isName : Token → Bool
  | .word _ none => true
  | _ => false

def isNameToken : Token → Bool
  | .nameToken _ => true
  | token => isName token

def tokenizedTypes : List String :=
  ["ID", "IDREF", "IDREFS", "ENTITY", "ENTITIES", "NMTOKEN", "NMTOKENS"]

/-- Reads an attribute type; tells whether it is tokenized. -/
def attributeType : Declaring Bool := do
  let token ← next
  match token.1 with
  | .openParen => do
      choices isNameToken (← fuel)
      return true
  | .word "CDATA" none => return false
  | .word "NOTATION" none => do
      match ← next with
      | (.openParen, _) => choices isName (← fuel)
      | other => refuse other
      return true
  | .word text none => if tokenizedTypes.contains text then return true else refuse token
  | _ => refuse token

def attributeDefault (doctype : Doctype) (tokenized : Bool) : Declaring (Option String) := do
  let token ← next
  let (text, position) ← match token with
    | (.literal text, position) => pure (text, position)
    | (.poundWord "FIXED", _) => literal
    | (.poundWord "IMPLIED", _) => return none
    | (.poundWord "REQUIRED", _) => return none
    | _ => refuse token
  if doctype.heeded then
    return some (← Scan.attributeValue doctype [] tokenized position text)
  else
    return none

def attributes (tag : String) : Nat → Doctype → Declaring Doctype
  | 0, doctype => return doctype
  | fuel + 1, doctype => do
      match ← next with
      | (.closing, _) => return doctype
      | (.word name none, _) => do
          let tokenized ← attributeType
          let value? ← attributeDefault doctype tokenized
          attributes tag fuel (doctype.declareAttribute tag ⟨name, tokenized, value?⟩)
      | token => refuse token

def mixed : Nat → Bool → Declaring Unit
  | 0, _ => return
  | fuel + 1, first => do
      match ← next with
      | (.closeParen (some '*'), _) => return
      | (.closeParen none, position) =>
          if first then return else refuse (.closeParen none, position)
      | (.bar, _) => do
          discard word
          mixed fuel false
      | token => refuse token

/-- Reads a content model.  `levels` holds the separators of the open groups,
innermost first; `item?` is the next token where an item must follow. -/
def model : Nat → List (Option Char) → Option (Token × Position) → Declaring Unit
  | 0, _, _ => return
  | fuel + 1, levels, some item => do
      match item.1 with
      | .openParen => model fuel (none :: levels) (some (← next))
      | .word _ _ => model fuel levels none
      | _ => refuse item
  | fuel + 1, levels, none => do
      let token ← next
      match token.1, levels with
      | .closeParen _, [_] => return
      | .closeParen _, _ :: outer => model fuel outer none
      | .comma, separator :: outer =>
          if separator = some '|' then
            refuse token
          else
            model fuel (some ',' :: outer) (some (← next))
      | .bar, separator :: outer =>
          if separator = some ',' then
            refuse token
          else
            model fuel (some '|' :: outer) (some (← next))
      | _, _ => refuse token

def element : Declaring Unit := do
  discard word
  match ← next with
  | (.word "EMPTY" none, _) => closing
  | (.word "ANY" none, _) => closing
  | (.openParen, _) => do
      match ← next with
      | (.poundWord "PCDATA", _) => mixed (← fuel) true
      | item => model (← fuel) [none] (some item)
      closing
  | token => refuse token

def subset : Nat → Doctype → Declaring Doctype
  | 0, doctype => return doctype
  | fuel + 1, doctype => do
      let token ← next
      match token.1 with
      | .closeBracket => return doctype
      | .comment => subset fuel doctype
      | .instruction (.plain _ _) => subset fuel doctype
      | .parameter _ => subset fuel doctype.skipParameter
      | .opening "ENTITY" => do subset fuel (← entity doctype)
      | .opening "ATTLIST" => do
          let tag ← word
          subset fuel (← attributes tag (← Declaring.fuel) doctype)
      | .opening "ELEMENT" => do
          element
          subset fuel doctype
      | .opening "NOTATION" => do
          notationRule
          subset fuel doctype
      | _ => refuse token

def doctype (standalone : Bool) : Declaring Doctype := do
  discard word
  let token ← next
  let start := Doctype.empty standalone
  let (token, start) ← match token.1 with
    | .word _ _ => do
        externalId token
        pure (← next, start.referElsewhere)
    | _ => pure (token, start)
  match token.1 with
  | .closing => return start
  | .openBracket => do
      let found ← subset (← fuel) start
      closing
      return found
  | _ => refuse token

def prolog (standalone : Bool) : Nat → Option Doctype → Declaring Doctype
  | 0, found => return found.getD (Doctype.empty standalone)
  | fuel + 1, found => do
      let token ← next
      match token.1, found with
      | .root, _ => return found.getD (Doctype.empty standalone)
      | .comment, _ => prolog standalone fuel found
      | .instruction (.plain _ _), _ => prolog standalone fuel found
      | .opening "DOCTYPE", none => do
          prolog standalone fuel (some (← doctype standalone))
      | _, _ => refuse token

def epilog (bound : Bound) : Nat → List Located → Except Fault Unit
  | 0, _ => .ok ()
  | fuel + 1, rest =>
      match Scan.skipSpace rest with
      | [] => if bound.ending = .complete then .ok () else .error bound.missing
      | first :: more => do
          match ← Token.scan bound first more with
          | (.comment, behind) => epilog bound fuel behind
          | (.instruction (.plain _ _), behind) => epilog bound fuel behind
          | _ => .error ⟨.junkAfterDocument, first.2.line⟩

end Declaring

end ApiDocs.Xml
