import ApiDocs.Config
import ApiDocs.Decimal.Integer
import ApiDocs.Log
import ApiDocs.Prose
import ApiDocs.Table

namespace ApiDocs.Documentation

/-! The documentation of single symbols, read from the members of a file. -/

structure Entry where
  kind : MemberKind
  name : String
  importance : Int
  summary? : Option String
  remarks? : Option String
  returns? : Option String
  example? : Option String
  parameters : Table String

inductive Error where
  | wrongRoot (tag : String)
  | noMembers
  | unnamedMember (line : Nat)
  | memberName (error : Descriptor.Error) (line : Nat)
  | prose (error : Prose.Error)
  | unnamedParameter (member : String) (line : Nat)
  deriving DecidableEq, Repr

def Error.message : Error → String
  | wrongRoot tag => s!"expected root element 'doc', found '{tag}'"
  | noMembers => "documentation has no 'members' element"
  | unnamedMember line => s!"member in line {line} has no 'name'"
  | memberName error line => s!"{error.message} (line {line})"
  | prose error => error.message
  | unnamedParameter member line => s!"param of '{member}' in line {line} has no 'name'"

inductive Notice where
  | importanceIgnored (line : Nat)
  | memberSkipped (name : String) (error : Prose.Error)
  | duplicate (name : String)
  | loaded (count : Nat)
  deriving DecidableEq, Repr

namespace Notice

def level : Notice → Level
  | importanceIgnored _ => .debug
  | memberSkipped _ _ => .warning
  | duplicate _ => .debug
  | loaded _ => .info

def message : Notice → String
  | importanceIgnored line => s!"ignoring non-numeric importance in line {line}"
  | memberSkipped name error => s!"skipping documentation of {name}: {error.message}"
  | duplicate name => s!"duplicate documentation for {name}, keeping the last"
  | loaded count => s!"loaded documentation for {count} members"

def logged (notice : Notice) : LogRecord :=
  ⟨notice.level, "xmldoc_md.docindex", notice.message⟩

end Notice

def importance? (element : Xml.Element) : Option Int :=
  (Decimal.integer (Text.strip element.text)).toOption

def importanceOf (member : Xml.Element) : Int :=
  ((member.find? "importance").bind importance?).getD 0

def importanceNotices (member : Xml.Element) : List Notice :=
  match member.find? "importance" with
  | none => []
  | some element =>
      if (importance? element).isSome then []
      else [.importanceIgnored element.position.line]

def constructorNames : List String := ["#ctor", "#cctor"]

def kindOf (descriptor : Descriptor) : MemberKind :=
  if descriptor.kind = .method &&
      constructorNames.contains (Name.last (Name.stripParameters descriptor.name)) then
    .constructor
  else
    descriptor.kind

def memberDescriptor (member : Xml.Element) : Except Error Descriptor :=
  match member.get? "name" with
  | none => .error (.unnamedMember member.position.line)
  | some text =>
      match Descriptor.parse text with
      | .error error => .error (.memberName error member.position.line)
      | .ok descriptor => .ok ⟨kindOf descriptor, descriptor.name⟩

def proseOf (language context : String) (column : Nat) (element : Xml.Element) :
    Except Error String :=
  (Prose.render language context column element.toNode).mapError .prose

def sectionOf (language context : String) (member : Xml.Element) (tag : String) :
    Except Error (Option String) :=
  match member.find? tag with
  | none => .ok none
  | some element =>
      (proseOf language context member.position.column element).map some

/-- The descriptions of parameters; the last one for a name counts. -/
def parametersOf (language context : String) (column : Nat) (table : Table String) :
    List Xml.Element → Except Error (Table String)
  | [] => .ok table
  | param :: rest =>
      match param.get? "name" with
      | none => .error (.unnamedParameter context param.position.line)
      | some name => do
          let text ← proseOf language context column param
          parametersOf language context column (table.insert name text) rest

def Entry.read (language : String) (descriptor : Descriptor) (member : Xml.Element) :
    Except Error Entry := do
  let name := descriptor.name
  let summary? ← sectionOf language name member "summary"
  let remarks? ← sectionOf language name member "remarks"
  let returns? ← sectionOf language name member "returns"
  let example? ← sectionOf language name member "example"
  let parameters ←
    parametersOf language name member.position.column Table.empty (member.named "param")
  .ok ⟨descriptor.kind, name, importanceOf member, summary?, remarks?, returns?, example?,
    parameters⟩

end ApiDocs.Documentation
