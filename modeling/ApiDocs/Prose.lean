import ApiDocs.Descriptor
import ApiDocs.Text.Indentation
import ApiDocs.Xml.Node

namespace ApiDocs.Prose

/-! Documentation text as Markdown.  Code and references are marked up, and text loses
the indentation of the file that it stands in. -/

inductive Error where
  | missingTarget (line : Nat)
  | descriptor (error : Descriptor.Error)
  deriving DecidableEq, Repr

namespace Error

def message : Error → String
  | missingTarget line => s!"'see' element in line {line} has no 'cref'"
  | descriptor error => error.message

/-- Whether a reference is missing or does not have the form of a descriptor, rather
than naming a kind that does not exist. -/
def isMalformed : Error → Bool
  | missingTarget _ => true
  | descriptor (.malformed _) => true
  | descriptor (.unknownKind _) => false

end Error

/-- The label of a reference: its own text or, when that is blank, the name of the
target as it reads inside the member `context`. -/
def label (ownText target context : String) : String :=
  if Text.allBlank ownText then Name.shorten target context else ownText

def reference (context : String) (see : Xml.Element) : Except Error String :=
  match see.get? "cref" with
  | some cref =>
      match Descriptor.parse cref with
      | .error error => .error (.descriptor error)
      | .ok descriptor =>
          .ok (" [" ++ label see.text descriptor.name context ++ "](#" ++
            descriptor.name ++ ") ")
  | none =>
      match see.get? "langword" with
      | some word => .ok (" \x60" ++ word ++ "\x60 ")
      | none => .error (.missingTarget see.position.line)

def codeBlock (language text : String) (column : Nat) : String :=
  "\n\x60\x60\x60" ++ language ++ "\n" ++ Text.fixIndentation text column ++
    "\n\x60\x60\x60\n"

/-- Renders a node as prose inside the documentation of the member `context`.
`column` is the column of the node's parent, whose indentation it carries. -/
def render (language context : String) (column : Nat) : Xml.Node → Except Error String
  | .text value => .ok (Text.fixIndentation value column)
  | .other _ => .ok ""
  | .element tag attributes position children =>
      if tag = "see" then
        reference context ⟨tag, attributes, position, children⟩
      else if tag = "code" then
        .ok (codeBlock language (Xml.Node.innerText.texts children) column)
      else
        renderAll position.column children
where
  renderAll (column : Nat) : List Xml.Node → Except Error String
    | [] => .ok ""
    | node :: rest =>
        match render language context column node with
        | .error error => .error error
        | .ok first =>
            match renderAll column rest with
            | .error error => .error error
            | .ok others => .ok (first ++ others)

end ApiDocs.Prose
