import ApiDocs.Xml.Scan

namespace ApiDocs.Xml

/-! What declarations say: entities and the attributes that elements have by default. -/

/-- What an entity stands for: a text of the document type, a text elsewhere, or
something that is no text. -/
inductive Entity where
  | internal (text : List Char)
  | external
  | binary
  deriving Repr

/-- A declared attribute.  The value of a tokenized one is a list of words. -/
structure AttributeRule where
  name : String
  tokenized : Bool
  value? : Option String
  deriving Repr

/-- What a document type declares.  It is `incomplete` when it also refers to
declarations elsewhere, which are never read; from the first such reference inside
it, declarations count only in a standalone document (`heeded`). -/
structure Doctype where
  entities : List (String × Entity)
  rules : List (String × AttributeRule)
  standalone : Bool
  incomplete : Bool
  heeded : Bool
  deriving Repr

namespace Doctype

def empty (standalone : Bool) : Doctype :=
  ⟨[], [], standalone, false, true⟩

def predefined : List (String × Char) :=
  [("amp", '&'), ("lt", '<'), ("gt", '>'), ("quot", '\x22'), ("apos", '\x27')]

def entity? (doctype : Doctype) (name : String) : Option Entity :=
  doctype.entities.lookup name

def requiresDeclarations (doctype : Doctype) : Bool :=
  !doctype.incomplete || doctype.standalone

def rulesOf (doctype : Doctype) (tag : String) : List AttributeRule :=
  (doctype.rules.filter (·.1 = tag)).map Prod.snd

def isTokenized (rules : List AttributeRule) (name : String) : Bool :=
  match rules.find? (·.name = name) with
  | some rule => rule.tokenized
  | none => false

def declareEntity (doctype : Doctype) (name : String) (entity : Entity) : Doctype :=
  if !doctype.heeded || (predefined.lookup name).isSome || (doctype.entity? name).isSome then
    doctype
  else
    { doctype with entities := (name, entity) :: doctype.entities }

def declareAttribute (doctype : Doctype) (tag : String) (rule : AttributeRule) : Doctype :=
  if !doctype.heeded || (doctype.rulesOf tag).any (·.name = rule.name) then
    doctype
  else
    { doctype with rules := doctype.rules ++ [(tag, rule)] }

def skipParameter (doctype : Doctype) : Doctype :=
  { doctype with incomplete := true, heeded := doctype.standalone }

def referElsewhere (doctype : Doctype) : Doctype :=
  { doctype with incomplete := true }

/-- What a reference to an entity stands for.  Nothing is found when the entity may
be declared elsewhere.  `opened` holds the entities whose text is being read. -/
def resolve (doctype : Doctype) (opened : List String) (name : String) :
    Except Cause (Option Entity) :=
  match doctype.entity? name with
  | none => if doctype.requiresDeclarations then .error .undefinedEntity else .ok none
  | some entity =>
      if opened.contains name then
        .error .recursiveEntity
      else
        match entity with
        | .binary => .error .binaryEntity
        | found => .ok (some found)

end Doctype

namespace Scan

/-- Adds a character to a value that is read last first.  In a tokenized value
spaces do not lead, and do not follow each other. -/
def pushValue (tokenized : Bool) (out : List Char) (c : Char) : List Char :=
  if tokenized && c = ' ' && (out.isEmpty || out.head? = some ' ') then out else c :: out

def finishValue (tokenized : Bool) (out : List Char) : String :=
  if tokenized && out.head? = some ' ' then
    String.ofList out.tail.reverse
  else
    String.ofList out.reverse

/-- Reads the value of an attribute: references are replaced, and every space or
line end becomes a space.  `expand` adds the text of an entity, whose reference is
at the given position. -/
def attributeText
    (expand : String → Position → List Char → Except Fault (List Char))
    (tokenized : Bool) : Nat → List Char → List Located → Except Fault (List Char)
  | 0, out, _ => .ok out
  | _, out, [] => .ok out
  | fuel + 1, out, (c, position) :: rest =>
      if c = '<' then
        .error ⟨.invalidToken, position.line⟩
      else if c = '&' then
        match reference ⟨Bound.inLine position.line [], position.line⟩ rest with
        | .error fault => .error ⟨.invalidToken, fault.line⟩
        | .ok (.character number, behind) =>
            match characterNumber? number with
            | none => .error ⟨.invalidCharacterNumber, position.line⟩
            | some c => attributeText expand tokenized fuel (pushValue tokenized out c) behind
        | .ok (.entity name, behind) => do
            let out ← match Doctype.predefined.lookup name with
              | some c => .ok (c :: out)
              | none => expand name position out
            attributeText expand tokenized fuel out behind
      else if c = '\r' && rest.head?.map Prod.fst = some '\n' then
        attributeText expand tokenized fuel out rest
      else if isSpace c then
        attributeText expand tokenized fuel (pushValue tokenized out ' ') rest
      else
        attributeText expand tokenized fuel (c :: out) rest

def attributeEntity (doctype : Doctype) (tokenized : Bool) (start : Position) :
    Nat → List String → String → Position → List Char → Except Fault (List Char)
  | 0, _, _, _, _ => .error ⟨.recursiveEntity, start.line⟩
  | depth + 1, opened, name, position, out =>
      match doctype.resolve opened name with
      | .error .binaryEntity => .error ⟨.binaryEntity, position.line⟩
      | .error cause => .error ⟨cause, start.line⟩
      | .ok none => .ok out
      | .ok (some (.internal text)) =>
          attributeText (attributeEntity doctype tokenized start depth (name :: opened))
            tokenized (text.length + 1) out (Located.pin start text)
      | .ok (some _) => .error ⟨.externalEntityInAttribute, position.line⟩

def attributeValue (doctype : Doctype) (opened : List String) (tokenized : Bool)
    (start : Position) (text : List Located) : Except Fault String :=
  (attributeText
      (attributeEntity doctype tokenized start (doctype.entities.length + 1) opened)
      tokenized (text.length + 1) [] text).map (finishValue tokenized)

/-- Reads the text of an entity from its declaration.  References to characters are
replaced, those to entities stay. -/
def entityText : Nat → List Char → List Located → Except Fault (List Char)
  | 0, out, _ => .ok out.reverse
  | _, out, [] => .ok out.reverse
  | fuel + 1, out, (c, position) :: rest =>
      let extent : Extent := ⟨Bound.inLine position.line [], position.line⟩
      if c = '%' then
        match name extent rest with
        | .ok (_, (';', _) :: _) => .error ⟨.illegalParameterReference, position.line⟩
        | .ok (_, []) => .error ⟨.invalidToken, position.line⟩
        | .ok (_, behind) => .error (extent.refuse true behind)
        | .error fault => .error ⟨.invalidToken, fault.line⟩
      else if c = '&' then
        match reference extent rest with
        | .error fault => .error ⟨.invalidToken, fault.line⟩
        | .ok (.character number, behind) =>
            match characterNumber? number with
            | none => .error ⟨.invalidCharacterNumber, position.line⟩
            | some c => entityText fuel (c :: out) behind
        | .ok (.entity name, behind) =>
            entityText fuel (';' :: name.toList.reverse ++ ('&' :: out)) behind
      else if c = '\r' then
        if rest.head?.map Prod.fst = some '\n' then
          entityText fuel out rest
        else
          entityText fuel ('\n' :: out) rest
      else
        entityText fuel (c :: out) rest

end Scan

end ApiDocs.Xml
