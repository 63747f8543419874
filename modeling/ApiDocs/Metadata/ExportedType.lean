import ApiDocs.Metadata.Member
import ApiDocs.Name

namespace ApiDocs.Metadata

/-! Exported types with their members, and the identifiers of the members. -/

inductive TypeKind where
  | classType
  | struct
  | interface
  | enum
  | delegate
  deriving DecidableEq, Repr

namespace TypeKind

def word : TypeKind → String
  | classType => "class"
  | struct => "struct"
  | interface => "interface"
  | enum => "enum"
  | delegate => "delegate"

def all : List TypeKind := [classType, struct, interface, enum, delegate]

def ofWord? (text : String) : Option TypeKind :=
  all.find? (·.word = text)

def isValueType (kind : TypeKind) : Bool :=
  kind = struct || kind = enum

def isInterface (kind : TypeKind) : Bool :=
  kind = interface

def isClass (kind : TypeKind) : Bool :=
  kind = classType || kind = delegate

def isEnum (kind : TypeKind) : Bool :=
  kind = enum

/-- The word that introduces a type in its documentation; a delegate is a class. -/
def keyword : TypeKind → String
  | delegate => "class"
  | kind => kind.word

end TypeKind

structure ExportedType where
  fullName : String
  kind : TypeKind
  base? : Option TypeRef
  enumValues : List String
  constructors : List Constructor
  methods : List Method
  properties : List Property
  fields : List Field
  events : List Event

namespace ExportedType

/-- The name in documentation files, where a nested type stands behind a dot. -/
def docName (type : ExportedType) : String :=
  String.ofList (TypeRef.dotNested type.fullName.toList)

def name (type : ExportedType) : String :=
  Name.last type.docName

def dropStart? (start text : List Char) : Option (List Char) :=
  if start.isPrefixOf text then some (text.drop start.length) else none

def namesTarget (starts targets : List String) (name : String) : Bool :=
  starts.any fun start =>
    match dropStart? start.toList name.toList with
    | some rest => targets.contains (String.ofList rest)
    | none => false

def isAccessor (type : ExportedType) (method : Method) : Bool :=
  method.specialName ||
    namesTarget ["get_", "set_"] (type.properties.map Property.name) method.name ||
    namesTarget ["add_", "remove_", "raise_"] (type.events.map Event.name) method.name

/-- The identifier of a member.  It has a parameter list if the member has
parameters. -/
def memberId (type : ExportedType) (member : Member) : String :=
  let plain := type.docName ++ "." ++ member.name
  if member.parameters.isEmpty then
    plain
  else
    plain ++ Parameter.listForIdentifier member.parameters

end ExportedType

end ApiDocs.Metadata
