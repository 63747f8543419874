import ApiDocs.Xml.Node

namespace ApiDocs.Xml

/-! Trees built from tags in the order in which they open and close.  Character data that
nothing parts is one text. -/

inductive Event where
  | start (tag : String) (attributes : List (String × String)) (position : Position)
  | finish
  | text (data : String)
  | comment (data : String)
  | instruction (target data : String)
  deriving DecidableEq, Repr

/-- Elements under construction.  The innermost open element comes first, and
children are kept last first. -/
structure Builder where
  root : Option Element
  opened : List Element
  deriving Repr

namespace Builder

def empty : Builder := ⟨none, []⟩

def prepend (node : Node) (children : List Node) : List Node :=
  match node, children with
  | .text data, .text value :: rest => .text (value ++ data) :: rest
  | _, _ => node :: children

/-- Adds a node to the innermost open element.  Nodes outside the root are lost. -/
def add (node : Node) (builder : Builder) : Builder :=
  match builder.opened with
  | [] => builder
  | inner :: outer =>
      { builder with
        opened := { inner with children := prepend node inner.children } :: outer }

def close (builder : Builder) : Builder :=
  match builder.opened with
  | [] => builder
  | inner :: outer =>
      let element := { inner with children := inner.children.reverse }
      match outer with
      | [] => ⟨some element, []⟩
      | _ => add element.toNode { builder with opened := outer }

def step (builder : Builder) : Event → Builder
  | .start tag attributes position =>
      { builder with opened := ⟨tag, attributes, position, []⟩ :: builder.opened }
  | .finish => builder.close
  | .text data => builder.add (.text data)
  | .comment data => builder.add (.other data)
  | .instruction target data => builder.add (.other (target ++ " " ++ data))

end Builder

namespace Element

def ofEvents (events : List Event) : Option Element :=
  (events.foldl Builder.step Builder.empty).root

end Element

end ApiDocs.Xml
