import ApiDocs.Markdown.Section

namespace ApiDocs.Markdown

/-! Pages: the sections of all documented types in order of importance. -/

open Metadata
open Documentation (Index Entry)

inductive Notice where
  | delegateSkipped (type : String)
  | typeUndocumented (type : String)
  | memberUndocumented (member : String)
  deriving DecidableEq, Repr

namespace Notice

def message : Notice → String
  | delegateSkipped type => s!"skipping delegate type {type}"
  | typeUndocumented type => s!"skipping undocumented type {type}"
  | memberUndocumented member => s!"no documentation for member {member}"

def logged (notice : Notice) : LogRecord :=
  ⟨.debug, "xmldoc_md.codegen_markdown", notice.message⟩

end Notice

def anchorLine (name : String) : String :=
  "<a id=\"" ++ name ++ "\"></a>\n"

def MemberItem.text (item : MemberItem) : String :=
  let valueType := String.join ((present item.valueType?).map fun type => "*" ++ type ++ "* ")
  let signature := (item.signature?.map fun list => " *" ++ list ++ "*").getD ""
  anchorLine item.anchor ++ "\n* " ++ valueType ++ "**" ++ item.name ++ "**" ++ signature ++
    (if item.body.isEmpty then "\n" else "  \n" ++ item.body ++ "\n") ++ "\n"

def Category.text (category : Category) : String :=
  "**" ++ category.title ++ "**\n\n" ++ String.join (category.items.map MemberItem.text)

def Section.enumText (values : List String) : String :=
  if values.isEmpty then
    ""
  else
    "**Enum Values**\n\n" ++
      String.join (values.map fun value => "* **" ++ value ++ "**\n") ++ "\n"

def Section.text (content : Section) : String :=
  anchorLine content.anchor ++ "## " ++ content.keyword ++ " " ++ content.title ++ "\n" ++
    String.join ((present content.base?).map fun base => "Extends \x60" ++ base ++ "\x60\n") ++
    "\n" ++ String.join (content.blocks.map (· ++ "\n\n")) ++
    Section.enumText content.enumValues ++
    String.join (content.categories.map Category.text)

def trimNewlines (text : String) : String :=
  String.ofList (text.toList.reverse.dropWhile (· == '\n')).reverse

def closeSection (text : String) : String :=
  trimNewlines text ++ "\n\n---\n\n"

/-- Types of higher importance come first, others keep their order. -/
def order (index : Index) (types : List ExportedType) : List ExportedType :=
  types.mergeSort fun left right =>
    index.importance right.docName ≤ index.importance left.docName

def isSkipped (config : Config) (type : ExportedType) : Bool :=
  type.kind = .delegate && config.skipDelegates

def entryFor? (config : Config) (index : Index) (type : ExportedType) : Option Entry :=
  if isSkipped config type then none else index.get? type.docName

def renderType? (config : Config) (index : Index) (type : ExportedType) : Option String :=
  (entryFor? config index type).map fun entry =>
    (Section.build config index type entry).text

def listedMembers (type : ExportedType) : List Member :=
  if type.kind.isEnum then [] else (Category.groups type).flatMap Prod.snd

def noticesOf (config : Config) (index : Index) (type : ExportedType) : List Notice :=
  if isSkipped config type then
    [.delegateSkipped type.docName]
  else if index.contains type.docName then
    ((listedMembers type).map type.memberId).filter (!index.contains ·) |>.map
      .memberUndocumented
  else
    [.typeUndocumented type.docName]

/-- The page of all types that are rendered.  A type with an empty text adds nothing. -/
def render (config : Config) (index : Index) (types : List ExportedType) : String :=
  let texts := (order index types).flatMap fun type => present (renderType? config index type)
  String.join (texts.map closeSection)

def renderNotices (config : Config) (index : Index) (types : List ExportedType) :
    List Notice :=
  (order index types).flatMap (noticesOf config index)

end ApiDocs.Markdown
