import ApiDocs.Metadata.TypeRef
import ApiDocs.Value

namespace ApiDocs.Metadata

/-! Members of types and their parameters. -/

structure Parameter where
  name : String
  type : TypeRef
  optional : Bool
  default : Value

structure Constructor where
  parameters : List Parameter
  isStatic : Bool

/-- A method.  One with a special name serves another member. -/
structure Method where
  name : String
  returns? : Option TypeRef
  parameters : List Parameter
  isStatic : Bool
  specialName : Bool

structure Property where
  name : String
  type : TypeRef
  parameters : List Parameter
  isStatic : Bool

structure Field where
  name : String
  type : TypeRef
  isStatic : Bool

structure Event where
  name : String
  type : TypeRef
  isStatic : Bool

inductive Member where
  | constructor (value : Constructor)
  | method (value : Method)
  | property (value : Property)
  | field (value : Field)
  | event (value : Event)

namespace Member

def name : Member → String
  | constructor value => if value.isStatic then "#cctor" else "#ctor"
  | method value => value.name
  | property value => value.name
  | field value => value.name
  | event value => value.name

def parameters : Member → List Parameter
  | constructor value => value.parameters
  | method value => value.parameters
  | property value => value.parameters
  | field _ => []
  | event _ => []

def isStatic : Member → Bool
  | constructor value => value.isStatic
  | method value => value.isStatic
  | property value => value.isStatic
  | field value => value.isStatic
  | event value => value.isStatic

def voidName : String := "System.Void"

def valueType? : Member → Option String
  | constructor _ => none
  | method value =>
      match value.returns? with
      | none => some "void"
      | some ref => some (if ref.name = voidName then "void" else ref.humanName)
  | property value => some value.type.humanName
  | field value => some value.type.humanName
  | event value => some value.type.humanName

end Member

namespace Parameter

def human (parameter : Parameter) : String :=
  let plain := parameter.type.humanName ++ " " ++ parameter.name
  if parameter.optional then "[" ++ plain ++ "]" else plain

def listForReaders (parameters : List Parameter) : String :=
  "(" ++ ", ".intercalate (parameters.map human) ++ ")"

def listForIdentifier (parameters : List Parameter) : String :=
  "(" ++ ",".intercalate (parameters.map fun parameter => parameter.type.canonicalName) ++ ")"

end Parameter

end ApiDocs.Metadata
