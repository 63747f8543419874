import ApiDocs.Documentation.Index
import ApiDocs.Metadata.ExportedType
import ApiDocs.Text.Lines
import ApiDocs.Value.Text

namespace ApiDocs.Markdown

/-! Sections: what a page says about one type. -/

open Metadata
open Documentation (Index Entry)

structure MemberItem where
  anchor : String
  name : String
  valueType? : Option String
  signature? : Option String
  body : String
  deriving Repr

structure Category where
  title : String
  items : List MemberItem
  deriving Repr

structure Section where
  anchor : String
  keyword : String
  title : String
  base? : Option String
  blocks : List String
  enumValues : List String
  categories : List Category
  deriving Repr

def present (text? : Option String) : List String :=
  match text? with
  | some text => if text.isEmpty then [] else [text]
  | none => []

namespace MemberItem

def parameterLine (description : String) (parameter : Parameter) : String :=
  let default :=
    if parameter.optional then
      " *(optional, default: " ++ parameter.default.defaultText ++ ")*"
    else
      ""
  let line :=
    "* *" ++ parameter.type.humanName ++ "* **" ++ parameter.name ++ "**" ++ default
  if description.isEmpty then line else line ++ ": " ++ description

def parameterLines (entry : Entry) (parameters : List Parameter) : List String :=
  parameters.filterMap fun parameter =>
    (entry.parameters.get? parameter.name).map (parameterLine · parameter)

def parameterBlock (entry : Entry) (parameters : List Parameter) : List String :=
  match parameterLines entry parameters with
  | [] => []
  | lines => ["\n".intercalate ("**Parameters:**" :: lines)]

def blocks (config : Config) (entry : Entry) (parameters : List Parameter) : List String :=
  (present entry.summary?).map (· ++ "  ") ++ present entry.remarks? ++
    if config.memberDetails then
      (present entry.returns?).map ("**Returns:** " ++ ·) ++ parameterBlock entry parameters
    else
      []

/-- The text under a member, which is part of its list item. -/
def bodyOf (config : Config) (entry : Entry) (parameters : List Parameter) : String :=
  "\n".intercalate ((blocks config entry parameters).map Text.indent)

def shownName (type : ExportedType) : Member → String
  | .constructor _ => type.name
  | member => member.name

/-- The parameter list that readers see.  Properties, fields and events without
parameters have none. -/
def signatureOf (member : Member) : Option String :=
  let list := Parameter.listForReaders member.parameters
  match member with
  | .constructor _ => some list
  | .method _ => some list
  | _ => if member.parameters.isEmpty then none else some list

def build (config : Config) (index : Index) (type : ExportedType) (member : Member) :
    MemberItem :=
  let anchor := type.memberId member
  { anchor
    name := shownName type member
    valueType? := member.valueType?
    signature? := signatureOf member
    body := match index.get? anchor with
      | some entry => bodyOf config entry member.parameters
      | none => "" }

end MemberItem

namespace Category

def constructorMethods : List String := [".ctor", ".cctor"]

/-- The methods that are listed: no constructors, and none that serve another
member. -/
def listedMethods (type : ExportedType) : List Method :=
  type.methods.filter fun method =>
    !type.isAccessor method && !constructorMethods.contains method.name

def methods (type : ExportedType) (isStatic : Bool) : List Member :=
  ((listedMethods type).filter (·.isStatic == isStatic)).map .method

def values (type : ExportedType) (isStatic : Bool) : List Member :=
  (type.properties.filter (·.isStatic == isStatic)).map .property ++
    (type.fields.filter (·.isStatic == isStatic)).map .field

def events (type : ExportedType) (isStatic : Bool) : List Member :=
  (type.events.filter (·.isStatic == isStatic)).map .event

def groups (type : ExportedType) : List (String × List Member) := [
  ("Constructors", type.constructors.map .constructor),
  ("Methods", methods type false),
  ("Events", events type false),
  ("Properties and Fields", values type false),
  ("Static Methods", methods type true),
  ("Static Properties and Fields", values type true),
  ("Static Events", events type true)]

/-- The categories of a type that have members.  An enumeration has none. -/
def ofType (config : Config) (index : Index) (type : ExportedType) : List Category :=
  if type.kind.isEnum then
    []
  else
    ((groups type).filter fun group => !group.2.isEmpty).map fun (title, members) =>
      ⟨title, members.map (MemberItem.build config index type)⟩

end Category

namespace Section

def trivialBases : List String := [
  "System.Object", "System.ValueType", "System.Enum", "System.Delegate",
  "System.MulticastDelegate"]

def baseOf (type : ExportedType) : Option String :=
  if type.kind.isClass || type.kind.isInterface then
    type.base?.bind fun base =>
      if trivialBases.contains base.name then none else some base.humanName
  else
    none

def blocksOf (entry : Entry) : List String :=
  present entry.summary? ++ present entry.remarks? ++
    (present entry.example?).map ("**Examples**\n\n" ++ ·)

def build (config : Config) (index : Index) (type : ExportedType) (entry : Entry) :
    Section where
  anchor := type.docName
  keyword := type.kind.keyword
  title := type.docName
  base? := baseOf type
  blocks := blocksOf entry
  enumValues := if type.kind.isEnum then type.enumValues else []
  categories := Category.ofType config index type

end Section

end ApiDocs.Markdown
