import ApiDocs.Xml.Position

namespace ApiDocs.Xml

/-! Elements, text and all other things between tags. -/

/-- A node of a document; `other` is a comment or a processing instruction. -/
inductive Node where
  | text (value : String)
  | other (value : String)
  | element (tag : String) (attributes : List (String × String))
      (position : Position) (children : List Node)
  deriving Repr, Inhabited

structure Element where
  tag : String
  attributes : List (String × String)
  position : Position
  children : List Node
  deriving Repr, Inhabited

namespace Node

def innerText : Node → String
  | text value => value
  | other _ => ""
  | element _ _ _ children => texts children
where
  texts : List Node → String
    | [] => ""
    | node :: rest => innerText node ++ texts rest

def element? : Node → Option Element
  | element tag attributes position children => some ⟨tag, attributes, position, children⟩
  | _ => none

/-- The node that a list of child indexes leads to, and the column of its parent.
`column` is that of the parent of the first node. -/
def descend? (column : Nat) : Node → List Nat → Option (Nat × Node)
  | node, [] => some (column, node)
  | .element _ _ position children, index :: path =>
      children[index]?.bind (descend? position.column · path)
  | _, _ :: _ => none

end Node

namespace Element

def toNode (element : Element) : Node :=
  .element element.tag element.attributes element.position element.children

def get? (element : Element) (name : String) : Option String :=
  element.attributes.lookup name

def text (element : Element) : String :=
  element.toNode.innerText

def elements (element : Element) : List Element :=
  element.children.filterMap Node.element?

def named (element : Element) (tag : String) : List Element :=
  element.elements.filter (·.tag = tag)

def find? (element : Element) (tag : String) : Option Element :=
  element.elements.find? (·.tag = tag)

@[simp] theorem element?_toNode (element : Element) :
    element.toNode.element? = some element := rfl

theorem find?_eq_head?_named (element : Element) (tag : String) :
    element.find? tag = (element.named tag).head? := by
  simp [find?, named]

end Element

end ApiDocs.Xml
