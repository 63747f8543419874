import ApiDocs.Xml.Doctype
import ApiDocs.Xml.Event

namespace ApiDocs.Xml

/-! The content of elements.  Text of internal entities is read where they are named, with
the position of the reference. -/

/-- What has been read of the root element: its events, last first, and the tags of
the open elements, innermost first. -/
structure Progress where
  events : List Event
  tags : List String
  deriving Repr

namespace Progress

def empty : Progress := ⟨[], []⟩

def add (event : Event) (progress : Progress) : Progress :=
  { progress with events := event :: progress.events }

def addText (text : List Char) (progress : Progress) : Progress :=
  if text.isEmpty then progress else progress.add (.text (String.ofList text))

def openTag (tag : String) (attributes : List (String × String)) (position : Position)
    (progress : Progress) : Progress :=
  ⟨.start tag attributes position :: progress.events, tag :: progress.tags⟩

def closeTag (progress : Progress) : Progress :=
  ⟨.finish :: progress.events, progress.tags.tail⟩

end Progress

namespace Content

def text (out : List Char) (rest : List Located) : Except Fault (Scanned (List Char)) :=
  match rest with
  | [] => .ok (Text.normalizeNewlines out.reverse, rest)
  | (']', _) :: (']', _) :: ('>', position) :: _ => .error ⟨.invalidToken, position.line⟩
  | (c, position) :: behind =>
      if c = '<' || c = '&' then
        .ok (Text.normalizeNewlines out.reverse, rest)
      else if isLegal c then
        text (c :: out) behind
      else
        .error ⟨.invalidToken, position.line⟩

def characterData (bound : Bound) (out : List Char) (rest : List Located) :
    Except Fault (Scanned (List Char)) :=
  match rest with
  | (']', _) :: (']', _) :: ('>', _) :: behind =>
      .ok (Text.normalizeNewlines out.reverse, behind)
  | (c, position) :: behind =>
      if isLegal c then
        characterData bound (c :: out) behind
      else
        .error ⟨.invalidToken, position.line⟩
  | [] =>
      match bound.ending with
      | .complete => .error ⟨.unclosedCharacterData, bound.textLine⟩
      | .halfUnit => .error ⟨.unclosedCharacterData, bound.textLine⟩
      | _ => .error (bound.cut bound.line false)

def sectionOpening (extent : Extent) (rest : List Located) :
    Except Fault (List Located) :=
  let units := (rest.take 6).map fun located => located.1.utf8Size
  if extent.bound.isClean && units.foldl (· + ·) 0 < 6 then
    .error (extent.refuse false [])
  else
    "CDATA[".toList.foldlM (fun rest c => Scan.expect extent true c rest) rest

def given (doctype : Doctype) (opened : List String) (start : Position)
    (rules : List AttributeRule) (out : List (String × String)) :
    List RawAttribute → Except Fault (List (String × String))
  | [] => .ok out.reverse
  | raw :: rest =>
      if out.any (·.1 = raw.name) then
        .error ⟨.duplicateAttribute, raw.position.line⟩
      else do
        let value ← Scan.attributeValue doctype opened
          (Doctype.isTokenized rules raw.name) start raw.value
        given doctype opened start rules ((raw.name, value) :: out) rest

def attributes (doctype : Doctype) (opened : List String) (start : Position)
    (tag : StartTag) : Except Fault (List (String × String)) := do
  let rules := doctype.rulesOf tag.name
  let values ← given doctype opened start rules [] tag.attributes
  let supplied := rules.filterMap fun rule =>
    if values.any (·.1 = rule.name) then none
    else rule.value?.map fun value => (rule.name, value)
  .ok (values ++ supplied)

/-- Takes in one piece of markup, whose angle bracket stands at `position`.  `base`
counts the elements that were open where the text at hand begins. -/
def markup (doctype : Doctype) (opened : List String) (base : Nat) (bound : Bound)
    (position : Position) (rest : List Located) (progress : Progress) :
    Except Fault (Scanned Progress) :=
  let extent : Extent := ⟨bound, position.line⟩
  match rest with
  | ('!', _) :: ('-', _) :: behind => do
      let behind ← Scan.expect extent true '-' behind
      let (data, behind) ← Scan.comment extent [] behind
      .ok (progress.add (.comment data), behind)
  | ('!', _) :: ('[', _) :: behind => do
      let behind ← sectionOpening extent behind
      let (data, behind) ← characterData bound [] behind
      .ok (progress.addText data, behind)
  | ('!', _) :: behind => .error (extent.refuse true behind)
  | ('?', _) :: behind => do
      let (content, behind) ← Instruction.scan extent behind
      match content with
      | .plain target data => .ok (progress.add (.instruction target data), behind)
      | .declaration _ _ => .error ⟨.misplacedDeclaration, position.line⟩
  | ('/', _) :: behind => do
      let (letters, behind) ← Scan.endTag extent behind
      if progress.tags.length ≤ base then
        .error ⟨.asynchronousEntity, position.line⟩
      else if progress.tags.head? = some (Located.text letters) then
        .ok (progress.closeTag, behind)
      else
        match letters with
        | (_, first) :: _ => .error ⟨.mismatchedTag, first.line⟩
        | [] => .error ⟨.mismatchedTag, position.line⟩
  | _ => do
      let (tag, behind) ← Scan.startTag extent rest
      let values ← attributes doctype opened position tag
      let progress := progress.openTag tag.name values position
      .ok (if tag.empty then progress.closeTag else progress, behind)

/-- Reads content up to the end of the root element or, where elements were open
before (`base`), up to the end of the text.  `expand` takes in the text of an entity
that is referred to. -/
def read (doctype : Doctype) (opened : List String)
    (expand : String → Position → Progress → Except Fault Progress)
    (base : Nat) (bound : Bound) :
    Nat → List Located → Progress → Except Fault (Scanned Progress)
  | 0, rest, progress => .ok (progress, rest)
  | _, [], progress =>
      if base = 0 then
        match bound.ending with
        | .complete => .error ⟨.noElement, bound.textLine⟩
        | _ => .error bound.missing
      else if progress.tags.length = base then
        .ok (progress, [])
      else
        .error ⟨.asynchronousEntity, bound.line⟩
  | fuel + 1, ('<', position) :: rest, progress => do
      let (progress, rest) ← markup doctype opened base bound position rest progress
      if progress.tags.isEmpty then
        .ok (progress, rest)
      else
        read doctype opened expand base bound fuel rest progress
  | fuel + 1, ('&', position) :: rest, progress => do
      let (reference, rest) ← Scan.reference ⟨bound, position.line⟩ rest
      let progress ← match reference with
        | .character number =>
            match characterNumber? number with
            | some c => .ok (progress.addText [c])
            | none => .error ⟨.invalidCharacterNumber, position.line⟩
        | .entity name =>
            match Doctype.predefined.lookup name with
            | some c => .ok (progress.addText [c])
            | none => expand name position progress
      read doctype opened expand base bound fuel rest progress
  | fuel + 1, rest, progress => do
      let (data, rest) ← text [] rest
      read doctype opened expand base bound fuel rest (progress.addText data)

/-- Takes in the text of an entity that is referred to at `position`.  `depth`
bounds the nesting of entities. -/
def expandEntity (doctype : Doctype) :
    Nat → List String → String → Position → Progress → Except Fault Progress
  | 0, _, _, position, _ => .error ⟨.recursiveEntity, position.line⟩
  | depth + 1, opened, name, position, progress =>
      match doctype.resolve opened name with
      | .error cause => .error ⟨cause, position.line⟩
      | .ok (some (.internal text)) =>
          let opened := name :: opened
          let located := Located.pin position text
          (read doctype opened (expandEntity doctype depth opened) progress.tags.length
            (Bound.inLine position.line located) (located.length + 1) located progress).map
            Prod.fst
      | .ok _ => .ok progress

def root (doctype : Doctype) (bound : Bound) (rest : List Located) :
    Except Fault (Scanned Progress) :=
  read doctype [] (expandEntity doctype (doctype.entities.length + 1) []) 0 bound
    (bound.size + 1) rest Progress.empty

end Content

end ApiDocs.Xml
