import ApiDocs.Xml.Event

namespace ApiDocs.Xml

/-! Trees whose nodes know what encloses them.  Elements are numbered as they open, and a node
holds the number of the element that was innermost when the node came to be.  Without numbers
these are the trees that a builder makes, and every link leads to the element whose children
hold the node. -/

inductive LinkedNode where
  | text (value : String) (parent? : Option Nat)
  | other (value : String) (parent? : Option Nat)
  | element (number : Nat) (tag : String) (attributes : List (String × String))
      (position : Position) (parent? : Option Nat) (children : List LinkedNode)

structure LinkedElement where
  number : Nat
  tag : String
  attributes : List (String × String)
  position : Position
  parent? : Option Nat
  children : List LinkedNode

/-- Elements under construction, like those of a builder, and how many have opened. -/
structure LinkedBuilder where
  root : Option LinkedElement
  opened : List LinkedElement
  count : Nat

namespace LinkedNode

def bare : LinkedNode → Node
  | text value _ => .text value
  | other value _ => .other value
  | element _ tag attributes position _ children =>
      .element tag attributes position (ofAll children)
where
  ofAll : List LinkedNode → List Node
    | [] => []
    | node :: rest => bare node :: ofAll rest

def numbers : LinkedNode → List Nat
  | text _ _ => []
  | other _ _ => []
  | element number _ _ _ _ children => number :: ofAll children
where
  ofAll : List LinkedNode → List Nat
    | [] => []
    | node :: rest => numbers node ++ ofAll rest

/-- A node is linked to the element of this number, and all below it is linked to the element
whose children hold it. -/
def AttachedTo (enclosing? : Option Nat) : LinkedNode → Prop
  | text _ parent? => parent? = enclosing?
  | other _ parent? => parent? = enclosing?
  | element number _ _ _ parent? children => parent? = enclosing? ∧ all (some number) children
where
  all (enclosing? : Option Nat) : List LinkedNode → Prop
    | [] => True
    | node :: rest => AttachedTo enclosing? node ∧ all enclosing? rest

theorem ofAll_bare_eq_map (nodes : List LinkedNode) : bare.ofAll nodes = nodes.map bare := by
  induction nodes with
  | nil => rfl
  | cons node rest ih => rw [bare.ofAll, ih, List.map_cons]

theorem ofAll_numbers_eq_flatMap (nodes : List LinkedNode) :
    numbers.ofAll nodes = nodes.flatMap numbers := by
  induction nodes with
  | nil => rfl
  | cons node rest ih => rw [numbers.ofAll, ih, List.flatMap_cons]

theorem all_attachedTo_iff (enclosing? : Option Nat) (nodes : List LinkedNode) :
    AttachedTo.all enclosing? nodes ↔ ∀ node ∈ nodes, node.AttachedTo enclosing? := by
  induction nodes with
  | nil => simp [AttachedTo.all]
  | cons node rest ih => rw [AttachedTo.all, ih, List.forall_mem_cons]

end LinkedNode

namespace LinkedElement

def toNode (element : LinkedElement) : LinkedNode :=
  .element element.number element.tag element.attributes element.position element.parent?
    element.children

def bare (element : LinkedElement) : Element where
  tag := element.tag
  attributes := element.attributes
  position := element.position
  children := element.children.map LinkedNode.bare

theorem bare_toNode (element : LinkedElement) : element.toNode.bare = element.bare.toNode := by
  rw [toNode, LinkedNode.bare, LinkedNode.ofAll_bare_eq_map]
  rfl

end LinkedElement

namespace LinkedBuilder

def empty : LinkedBuilder := ⟨none, [], 0⟩

def innermost? (builder : LinkedBuilder) : Option Nat :=
  builder.opened.head?.map LinkedElement.number

def prepend (node : LinkedNode) (children : List LinkedNode) : List LinkedNode :=
  match node, children with
  | .text data _, .text value parent? :: rest => .text (value ++ data) parent? :: rest
  | _, _ => node :: children

def add (node : LinkedNode) (builder : LinkedBuilder) : LinkedBuilder :=
  match builder.opened with
  | [] => builder
  | inner :: outer =>
      { builder with
        opened := { inner with children := prepend node inner.children } :: outer }

def close (builder : LinkedBuilder) : LinkedBuilder :=
  match builder.opened with
  | [] => builder
  | inner :: outer =>
      let element := { inner with children := inner.children.reverse }
      match outer with
      | [] => { builder with root := some element, opened := [] }
      | _ => add element.toNode { builder with opened := outer }

def step (builder : LinkedBuilder) : Event → LinkedBuilder
  | .start tag attributes position =>
      { builder with
        opened :=
          ⟨builder.count, tag, attributes, position, builder.innermost?, []⟩ :: builder.opened
        count := builder.count + 1 }
  | .finish => builder.close
  | .text data => builder.add (.text data builder.innermost?)
  | .comment data => builder.add (.other data builder.innermost?)
  | .instruction target data =>
      builder.add (.other (target ++ " " ++ data) builder.innermost?)

def bare (builder : LinkedBuilder) : Builder where
  root := builder.root.map LinkedElement.bare
  opened := builder.opened.map LinkedElement.bare

theorem map_bare_prepend (node : LinkedNode) (children : List LinkedNode) :
    (prepend node children).map LinkedNode.bare =
      Builder.prepend node.bare (children.map LinkedNode.bare) := by
  cases node with
  | text data parent? =>
      cases children with
      | nil => rfl
      | cons next rest => cases next <;> rfl
  | other data parent? => rfl
  | element number tag attributes position parent? children => rfl

theorem bare_add (node : LinkedNode) (builder : LinkedBuilder) :
    (builder.add node).bare = builder.bare.add node.bare := by
  obtain ⟨root, opened, count⟩ := builder
  cases opened with
  | nil => rfl
  | cons inner outer =>
      simp [add, Builder.add, bare, LinkedElement.bare, map_bare_prepend]

theorem bare_close (builder : LinkedBuilder) : builder.close.bare = builder.bare.close := by
  obtain ⟨root, opened, count⟩ := builder
  cases opened with
  | nil => rfl
  | cons inner outer =>
      cases outer with
      | nil => simp [close, Builder.close, bare, LinkedElement.bare]
      | cons next more =>
          simp only [close, bare_add, LinkedElement.bare_toNode]
          simp [Builder.close, bare, LinkedElement.bare, List.map_reverse]

theorem bare_step (builder : LinkedBuilder) (event : Event) :
    (builder.step event).bare = builder.bare.step event := by
  cases event with
  | start tag attributes position => rfl
  | finish => exact bare_close builder
  | text data => exact bare_add _ builder
  | comment data => exact bare_add _ builder
  | instruction target data => exact bare_add _ builder

theorem bare_foldl_step (events : List Event) (builder : LinkedBuilder) :
    (events.foldl step builder).bare = events.foldl Builder.step builder.bare := by
  induction events generalizing builder with
  | nil => rfl
  | cons event rest ih => rw [List.foldl_cons, ih, bare_step, List.foldl_cons]

def Attached : List LinkedElement → Prop
  | [] => True
  | inner :: outer =>
      inner.parent? = outer.head?.map LinkedElement.number ∧
        (∀ node ∈ inner.children, node.AttachedTo (some inner.number)) ∧ Attached outer

def numbers : List LinkedElement → List Nat
  | [] => []
  | inner :: outer =>
      numbers outer ++ inner.number :: inner.children.reverse.flatMap LinkedNode.numbers

/-- What holds of a builder at any time. -/
structure Linked (builder : LinkedBuilder) : Prop where
  attached : Attached builder.opened
  nodup : (numbers builder.opened).Nodup
  lt_count : ∀ number ∈ numbers builder.opened, number < builder.count
  root_attached : ∀ root ∈ builder.root, root.toNode.AttachedTo none
  root_nodup : ∀ root ∈ builder.root, root.toNode.numbers.Nodup

theorem linked_empty : Linked empty where
  attached := trivial
  nodup := .nil
  lt_count := by simp [empty, numbers]
  root_attached := by simp [empty]
  root_nodup := by simp [empty]

theorem attachedTo_prepend {number : Nat} {node : LinkedNode} {children : List LinkedNode}
    (hnode : node.AttachedTo (some number))
    (hchildren : ∀ child ∈ children, child.AttachedTo (some number)) :
    ∀ child ∈ prepend node children, child.AttachedTo (some number) := by
  have hcons : ∀ child ∈ node :: children, child.AttachedTo (some number) :=
    List.forall_mem_cons.mpr ⟨hnode, hchildren⟩
  cases node with
  | text data parent? =>
      cases children with
      | nil => exact hcons
      | cons next rest =>
          cases next with
          | text value parent? =>
              obtain ⟨hnext, hrest⟩ := List.forall_mem_cons.mp hchildren
              exact List.forall_mem_cons.mpr ⟨hnext, hrest⟩
          | other => exact hcons
          | element => exact hcons
  | other => exact hcons
  | element => exact hcons

theorem flatMap_numbers_prepend (node : LinkedNode) (children : List LinkedNode) :
    (prepend node children).reverse.flatMap LinkedNode.numbers =
      children.reverse.flatMap LinkedNode.numbers ++ node.numbers := by
  have hcons : (node :: children).reverse.flatMap LinkedNode.numbers =
      children.reverse.flatMap LinkedNode.numbers ++ node.numbers := by simp
  cases node with
  | text data parent? =>
      cases children with
      | nil => exact hcons
      | cons next rest =>
          cases next with
          | text value parent? => simp [prepend, LinkedNode.numbers]
          | other => exact hcons
          | element => exact hcons
  | other => exact hcons
  | element => exact hcons

theorem linked_add {root : Option LinkedElement} {inner : LinkedElement}
    {outer : List LinkedElement} {count : Nat} {node : LinkedNode}
    (hattached : Attached (inner :: outer))
    (hnode : node.AttachedTo (some inner.number))
    (hnodup : (numbers (inner :: outer) ++ node.numbers).Nodup)
    (hcount : ∀ number ∈ numbers (inner :: outer) ++ node.numbers, number < count)
    (hroot : ∀ element ∈ root, element.toNode.AttachedTo none)
    (hrootNodup : ∀ element ∈ root, element.toNode.numbers.Nodup) :
    Linked (add node ⟨root, inner :: outer, count⟩) := by
  obtain ⟨hinner, hchildren, houter⟩ := hattached
  have hnumbers : numbers ({ inner with children := prepend node inner.children } :: outer) =
      numbers (inner :: outer) ++ node.numbers := by
    rw [numbers, numbers, flatMap_numbers_prepend]
    simp
  refine ⟨⟨hinner, attachedTo_prepend hnode hchildren, houter⟩, ?_, ?_, hroot, hrootNodup⟩
  · exact hnumbers ▸ hnodup
  · exact hnumbers ▸ hcount

theorem linked_close {builder : LinkedBuilder} (h : Linked builder) : Linked builder.close := by
  obtain ⟨root, opened, count⟩ := builder
  cases opened with
  | nil => exact h
  | cons inner outer =>
      obtain ⟨hinner, hchildren, houter⟩ := h.attached
      have hall : LinkedNode.AttachedTo.all (some inner.number) inner.children.reverse := by
        rw [LinkedNode.all_attachedTo_iff]
        simpa using hchildren
      have hnumbers : ({ inner with children := inner.children.reverse } :
          LinkedElement).toNode.numbers =
            inner.number :: inner.children.reverse.flatMap LinkedNode.numbers := by
        rw [LinkedElement.toNode, LinkedNode.numbers, LinkedNode.ofAll_numbers_eq_flatMap]
      cases outer with
      | nil =>
          refine ⟨trivial, .nil, by simp [close, numbers], ?_, ?_⟩
          · rintro element ⟨⟩
            exact ⟨hinner, hall⟩
          · rintro element ⟨⟩
            rw [hnumbers]
            simpa [numbers] using h.nodup
      | cons next more =>
          refine linked_add houter ⟨hinner, hall⟩ ?_ ?_ h.root_attached h.root_nodup
          · rw [hnumbers]
            exact h.nodup
          · rw [hnumbers]
            exact h.lt_count

theorem linked_add_leaf {builder : LinkedBuilder} (h : Linked builder) {node : LinkedNode}
    (hnode : node.AttachedTo builder.innermost?) (hnumbers : node.numbers = []) :
    Linked (builder.add node) := by
  obtain ⟨root, opened, count⟩ := builder
  cases opened with
  | nil => exact h
  | cons inner outer =>
      refine linked_add h.attached hnode ?_ ?_ h.root_attached h.root_nodup
      · rw [hnumbers, List.append_nil]
        exact h.nodup
      · rw [hnumbers, List.append_nil]
        exact h.lt_count

theorem linked_step {builder : LinkedBuilder} (h : Linked builder) (event : Event) :
    Linked (builder.step event) := by
  cases event with
  | start tag attributes position =>
      refine ⟨⟨rfl, by simp, h.attached⟩, ?_, ?_, h.root_attached, h.root_nodup⟩
      · refine List.nodup_append.mpr ⟨h.nodup, by simp, ?_⟩
        intro number hnumber other hother
        have hlt := h.lt_count number hnumber
        simp at hother
        omega
      · intro number hnumber
        simp only [step, numbers, List.reverse_nil, List.flatMap_nil, List.mem_append,
          List.mem_singleton] at hnumber ⊢
        rcases hnumber with hold | rfl
        · have hlt := h.lt_count number hold
          omega
        · omega
  | finish => exact linked_close h
  | text data => exact linked_add_leaf h rfl rfl
  | comment data => exact linked_add_leaf h rfl rfl
  | instruction target data => exact linked_add_leaf h rfl rfl

theorem linked_foldl_step (events : List Event) {builder : LinkedBuilder}
    (h : Linked builder) : Linked (events.foldl step builder) := by
  induction events generalizing builder with
  | nil => exact h
  | cons event rest ih => exact ih (linked_step h event)

end LinkedBuilder

namespace LinkedElement

def ofEvents (events : List Event) : Option LinkedElement :=
  (events.foldl LinkedBuilder.step LinkedBuilder.empty).root

theorem map_bare_ofEvents (events : List Event) :
    (ofEvents events).map bare = Element.ofEvents events :=
  congrArg Builder.root (LinkedBuilder.bare_foldl_step events LinkedBuilder.empty)

theorem attachedTo_of_ofEvents {events : List Event} {root : LinkedElement}
    (h : ofEvents events = some root) : root.toNode.AttachedTo none :=
  (LinkedBuilder.linked_foldl_step events LinkedBuilder.linked_empty).root_attached root h

theorem nodup_of_ofEvents {events : List Event} {root : LinkedElement}
    (h : ofEvents events = some root) : root.toNode.numbers.Nodup :=
  (LinkedBuilder.linked_foldl_step events LinkedBuilder.linked_empty).root_nodup root h

end LinkedElement

end ApiDocs.Xml
