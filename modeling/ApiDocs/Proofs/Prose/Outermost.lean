import ApiDocs.Proofs.Prose.Pieces
import ApiDocs.Proofs.Xml.Traversal

namespace ApiDocs

/-! Prose as a walk over the whole tree.  The walk comes to every node in the order of the
document and knows what encloses it; references and code inside other references and code
take no part. -/

namespace Xml

/-- A node of a tree and the elements around it, the innermost first. -/
structure Visit where
  node : Node
  enclosing : List Element

namespace Visit

def column (outer : Nat) (visit : Visit) : Nat :=
  match visit.enclosing with
  | [] => outer
  | parent :: _ => parent.position.column

def element? (visit : Visit) : Option Element :=
  visit.node.element?

end Visit

namespace Node

def visits (enclosing : List Element) : Node → List Visit
  | text value => [⟨text value, enclosing⟩]
  | other value => [⟨other value, enclosing⟩]
  | element tag attributes position children =>
      ⟨element tag attributes position children, enclosing⟩ ::
        ofAll (⟨tag, attributes, position, children⟩ :: enclosing) children
where
  ofAll (enclosing : List Element) : List Node → List Visit
    | [] => []
    | node :: rest => visits enclosing node ++ ofAll enclosing rest

mutual

theorem filterMap_element?_visits (enclosing : List Element) (node : Node) :
    (node.visits enclosing).filterMap Visit.element? = node.elements := by
  cases node with
  | text value => rfl
  | other value => rfl
  | element tag attributes position children =>
      rw [visits, elements, ← filterMap_element?_ofAll_visits]
      rfl

theorem filterMap_element?_ofAll_visits (enclosing : List Element) (nodes : List Node) :
    (visits.ofAll enclosing nodes).filterMap Visit.element? = elements.ofAll nodes := by
  cases nodes with
  | nil => rfl
  | cons node rest =>
      rw [visits.ofAll, List.filterMap_append, filterMap_element?_visits enclosing node,
        filterMap_element?_ofAll_visits enclosing rest, elements.ofAll]

end

mutual

theorem suffix_enclosing {enclosing : List Element} {node : Node} {visit : Visit}
    (h : visit ∈ node.visits enclosing) : enclosing <:+ visit.enclosing := by
  cases node with
  | text value =>
      obtain rfl := List.mem_singleton.mp h
      exact List.suffix_refl _
  | other value =>
      obtain rfl := List.mem_singleton.mp h
      exact List.suffix_refl _
  | element tag attributes position children =>
      rcases List.mem_cons.mp h with rfl | hmem
      · exact List.suffix_refl _
      · exact (List.suffix_cons _ _).trans (suffix_enclosing_of_ofAll hmem)

theorem suffix_enclosing_of_ofAll {enclosing : List Element} {nodes : List Node}
    {visit : Visit} (h : visit ∈ visits.ofAll enclosing nodes) :
    enclosing <:+ visit.enclosing := by
  cases nodes with
  | nil => exact absurd h List.not_mem_nil
  | cons node rest =>
      rcases List.mem_append.mp h with hmem | hmem
      · exact suffix_enclosing hmem
      · exact suffix_enclosing_of_ofAll hmem

end

end Node

end Xml

namespace Prose

/-- References and code: what they contain is not prose. -/
def isOpaque (element : Xml.Element) : Bool :=
  element.tag = "see" || element.tag = "code"

def isOutermost (visit : Xml.Visit) : Bool :=
  !visit.enclosing.any isOpaque

/-- The nodes that are neither inside a reference nor inside code, in the order of the
document. -/
def outermost (node : Xml.Node) : List Xml.Visit :=
  (node.visits []).filter isOutermost

def see? (visit : Xml.Visit) : Option Xml.Element :=
  visit.element?.filter (·.tag = "see")

def references (node : Xml.Node) : List Xml.Element :=
  (outermost node).filterMap see?

/-- A reference that leads nowhere: without a target or a word, or with a target that is no
descriptor. -/
def IsDangling (see : Xml.Element) : Prop :=
  (see.get? "cref" = none ∧ see.get? "langword" = none) ∨
    ∃ cref, see.get? "cref" = some cref ∧ ∃ error, Descriptor.parse cref = .error error

def fault? (see : Xml.Element) : Option Error :=
  match see.get? "cref" with
  | some cref =>
      match Descriptor.parse cref with
      | .error error => some (.descriptor error)
      | .ok _ => none
  | none =>
      match see.get? "langword" with
      | some _ => none
      | none => some (.missingTarget see.position.line)

def referenceText (context : String) (see : Xml.Element) : String :=
  match see.get? "cref" with
  | some cref =>
      match Descriptor.parse cref with
      | .error _ => ""
      | .ok descriptor =>
          " [" ++ label see.text descriptor.name context ++ "](#" ++ descriptor.name ++ ") "
  | none => " \x60" ++ (see.get? "langword").getD "" ++ "\x60 "

/-- What an outermost node adds on its own. -/
def contribution (language context : String) (outer : Nat) (visit : Xml.Visit) : String :=
  match visit.node with
  | .text value => Text.fixIndentation value (visit.column outer)
  | .other _ => ""
  | .element tag attributes position children =>
      if tag = "see" then
        referenceText context ⟨tag, attributes, position, children⟩
      else if tag = "code" then
        codeBlock language (Xml.Node.innerText.texts children) (visit.column outer)
      else
        ""

theorem isSome_fault?_iff (see : Xml.Element) : (fault? see).isSome ↔ IsDangling see := by
  rw [fault?, IsDangling]
  cases see.get? "cref" with
  | some cref => cases hparse : Descriptor.parse cref <;> simp [hparse]
  | none => cases see.get? "langword" <;> simp

theorem fault?_eq_none_iff (see : Xml.Element) : fault? see = none ↔ ¬ IsDangling see := by
  rw [← isSome_fault?_iff, Option.not_isSome_iff_eq_none]

theorem reference_eq (context : String) (see : Xml.Element) :
    reference context see =
      match fault? see with
      | some error => .error error
      | none => .ok (referenceText context see) := by
  rw [reference, fault?, referenceText]
  cases see.get? "cref" with
  | some cref => cases hparse : Descriptor.parse cref <;> simp [hparse]
  | none => cases see.get? "langword" <;> rfl

namespace Piece

def fault? : Piece → Option Error
  | text _ _ => none
  | code _ _ => none
  | reference see => Prose.fault? see

def output (language context : String) : Piece → String
  | text value column => Text.fixIndentation value column
  | code content column =>
      codeBlock language (Xml.Node.innerText.texts content) column
  | reference see => referenceText context see

theorem render_eq (language context : String) (piece : Piece) :
    piece.render language context =
      match piece.fault? with
      | some error => .error error
      | none => .ok (piece.output language context) := by
  cases piece with
  | text value column => rfl
  | code content column => rfl
  | reference see => exact reference_eq context see

theorem renderAll_eq_findSome? (language context : String) (list : List Piece) :
    renderAll language context list =
      match list.findSome? fault? with
      | some error => .error error
      | none => .ok (String.join (list.map (output language context))) := by
  induction list with
  | nil => rfl
  | cons piece rest ih =>
      rw [← List.singleton_append, renderAll_append, renderAll_singleton, render_eq, ih,
        List.singleton_append, List.findSome?_cons]
      cases piece.fault? with
      | some error => rfl
      | none =>
          cases rest.findSome? fault? with
          | some error => rfl
          | none => simp

end Piece

def piece? (outer : Nat) (visit : Xml.Visit) : Option Piece :=
  match visit.node with
  | .text value => some (.text value (visit.column outer))
  | .other _ => none
  | .element tag attributes position children =>
      if tag = "see" then
        some (.reference ⟨tag, attributes, position, children⟩)
      else if tag = "code" then
        some (.code children (visit.column outer))
      else
        none

theorem bind_piece?_fault? (outer : Nat) (visit : Xml.Visit) :
    (piece? outer visit).bind Piece.fault? = (see? visit).bind fault? := by
  obtain ⟨node, enclosing⟩ := visit
  cases node with
  | text value => rfl
  | other value => rfl
  | element tag attributes position children =>
      rw [piece?, see?, Xml.Visit.element?, Xml.Node.element?, Option.filter_some]
      by_cases hsee : tag = "see"
      · simp [hsee, Piece.fault?]
      · by_cases hcode : tag = "code" <;> simp [hsee, hcode, Piece.fault?]

theorem contribution_eq_output (language context : String) (outer : Nat)
    (visit : Xml.Visit) :
    contribution language context outer visit =
      ((piece? outer visit).map (Piece.output language context)).getD "" := by
  obtain ⟨node, enclosing⟩ := visit
  cases node with
  | text value => rfl
  | other value => rfl
  | element tag attributes position children =>
      rw [contribution, piece?]
      by_cases hsee : tag = "see"
      · simp [hsee, Piece.output]
      · by_cases hcode : tag = "code" <;> simp [hsee, hcode, Piece.output]

theorem filter_visits_of_opaque {enclosing : List Xml.Element}
    (h : enclosing.any isOpaque = true) (nodes : List Xml.Node) :
    (Xml.Node.visits.ofAll enclosing nodes).filter isOutermost = [] := by
  rw [List.filter_eq_nil_iff]
  intro visit hmem
  obtain ⟨element, helement, hopaque⟩ := List.any_eq_true.mp h
  have hany : visit.enclosing.any isOpaque = true :=
    List.any_eq_true.mpr
      ⟨element, (Xml.Node.suffix_enclosing_of_ofAll hmem).subset helement, hopaque⟩
  simp [isOutermost, hany]

mutual

/-- Rendering goes no deeper than the outermost references and code. -/
theorem pieces_eq_filterMap_visits (outer : Nat) {enclosing : List Xml.Element}
    (h : enclosing.any isOpaque = false) (node : Xml.Node) :
    pieces (Xml.Visit.column outer ⟨node, enclosing⟩) node =
      ((node.visits enclosing).filter isOutermost).filterMap (piece? outer) := by
  have hself : ∀ visited, isOutermost ⟨visited, enclosing⟩ = true := by
    intro visited
    simp [isOutermost, h]
  cases node with
  | text value => simp [pieces, Xml.Node.visits, hself, piece?]
  | other value => simp [pieces, Xml.Node.visits, hself, piece?]
  | element tag attributes position children =>
      rw [pieces, Xml.Node.visits, List.filter_cons_of_pos (hself _)]
      by_cases hsee : tag = "see"
      · rw [if_pos hsee, filter_visits_of_opaque (by simp [isOpaque, hsee])]
        simp [piece?, hsee]
      · rw [if_neg hsee]
        by_cases hcode : tag = "code"
        · rw [if_pos hcode, filter_visits_of_opaque (by simp [isOpaque, hcode])]
          simp [piece?, hcode]
        · have hinside :
              (⟨tag, attributes, position, children⟩ :: enclosing : List Xml.Element).any
                isOpaque = false := by
            simp only [List.any_cons, h, isOpaque, hsee, hcode, decide_false, Bool.or_false]
          rw [if_neg hcode, List.filterMap_cons_none (by simp [piece?, hsee, hcode])]
          exact pieces_ofAll_eq_filterMap_visits outer hinside children

theorem pieces_ofAll_eq_filterMap_visits (outer : Nat) {parent : Xml.Element}
    {enclosing : List Xml.Element} (h : (parent :: enclosing).any isOpaque = false)
    (nodes : List Xml.Node) :
    pieces.ofAll parent.position.column nodes =
      ((Xml.Node.visits.ofAll (parent :: enclosing) nodes).filter isOutermost).filterMap
        (piece? outer) := by
  cases nodes with
  | nil => rfl
  | cons node rest =>
      have hnode := pieces_eq_filterMap_visits outer h node
      rw [Xml.Visit.column] at hnode
      rw [pieces.ofAll, hnode, pieces_ofAll_eq_filterMap_visits outer h rest,
        Xml.Node.visits.ofAll, List.filter_append, List.filterMap_append]

end

theorem pieces_eq_filterMap_outermost (column : Nat) (node : Xml.Node) :
    pieces column node = (outermost node).filterMap (piece? column) :=
  pieces_eq_filterMap_visits column List.any_nil node

theorem findSome?_fault?_pieces (column : Nat) (node : Xml.Node) :
    (pieces column node).findSome? Piece.fault? = (references node).findSome? fault? := by
  rw [pieces_eq_filterMap_outermost, references]
  induction outermost node with
  | nil => rfl
  | cons visit rest ih =>
      have hfault := bind_piece?_fault? column visit
      rw [List.filterMap_cons, List.filterMap_cons]
      cases hpiece : piece? column visit <;> cases hsee : see? visit <;>
        simp_all [List.findSome?_cons]

theorem join_output_pieces (language context : String) (column : Nat) (node : Xml.Node) :
    String.join ((pieces column node).map (Piece.output language context)) =
      String.join ((outermost node).map (contribution language context column)) := by
  rw [pieces_eq_filterMap_outermost]
  induction outermost node with
  | nil => rfl
  | cons visit rest ih =>
      rw [List.map_cons, contribution_eq_output]
      cases hpiece : piece? column visit with
      | none => simp [List.filterMap_cons_none hpiece, ih]
      | some piece => simp [List.filterMap_cons_some hpiece, ih]

theorem render_eq_findSome? (language context : String) (column : Nat) (node : Xml.Node) :
    render language context column node =
      match (references node).findSome? fault? with
      | some error => .error error
      | none =>
          .ok (String.join ((outermost node).map (contribution language context column))) := by
  rw [render_eq_renderAll, Piece.renderAll_eq_findSome?, findSome?_fault?_pieces,
    join_output_pieces]

theorem render_eq_error_iff {language context : String} {column : Nat} {node : Xml.Node}
    {error : Error} :
    render language context column node = .error error ↔
      (references node).findSome? fault? = some error := by
  rw [render_eq_findSome?]
  cases (references node).findSome? fault? <;> simp

theorem render_eq_ok_iff {language context : String} {column : Nat} {node : Xml.Node}
    {output : String} :
    render language context column node = .ok output ↔
      (references node).findSome? fault? = none ∧
        output = String.join ((outermost node).map (contribution language context column)) := by
  rw [render_eq_findSome?]
  cases (references node).findSome? fault? with
  | some error => simp
  | none => simp [eq_comm]

theorem findSome?_fault?_eq_some_iff {sees : List Xml.Element} {error : Error} :
    sees.findSome? fault? = some error ↔
      ∃ before see after, sees = before ++ see :: after ∧
        (∀ earlier ∈ before, ¬ IsDangling earlier) ∧ fault? see = some error := by
  simp only [List.findSome?_eq_some_iff, fault?_eq_none_iff, and_comm]

theorem findSome?_fault?_eq_none_iff {sees : List Xml.Element} :
    sees.findSome? fault? = none ↔ ∀ see ∈ sees, ¬ IsDangling see := by
  simp only [List.findSome?_eq_none_iff, fault?_eq_none_iff]

/-- Prose fails with the first outermost reference that is dangling; without one it is made
of what the outermost nodes add, one after the other. -/
theorem render_outermost (language context : String) (column : Nat) (node : Xml.Node) :
    ((∃ error, render language context column node = .error error) ↔
        ∃ see ∈ references node, IsDangling see) ∧
      (∀ error, render language context column node = .error error ↔
        ∃ before see after, references node = before ++ see :: after ∧
          (∀ earlier ∈ before, ¬ IsDangling earlier) ∧ fault? see = some error) ∧
      ∀ output, render language context column node = .ok output ↔
        (∀ see ∈ references node, ¬ IsDangling see) ∧
          output =
            String.join ((outermost node).map (contribution language context column)) := by
  refine ⟨?_, ?_, ?_⟩
  · simp only [render_eq_error_iff, ← Option.isSome_iff_exists, List.findSome?_isSome_iff,
      isSome_fault?_iff]
  · intro error
    rw [render_eq_error_iff, findSome?_fault?_eq_some_iff]
  · intro output
    rw [render_eq_ok_iff, findSome?_fault?_eq_none_iff]

example :
    let bad : Xml.Node := .element "see" [] ⟨1, 20⟩ []
    let word : Xml.Node := .element "see" [("langword", "null")] ⟨1, 9⟩ [bad]
    render "csharp" "N.C" 0
        (.element "p" [] ⟨1, 0⟩ [word, .other "x", .element "code" [] ⟨1, 40⟩ [bad]]) =
      .ok " \x60null\x60 \n\x60\x60\x60csharp\n\n\x60\x60\x60\n" := by
  rfl

end Prose

end ApiDocs
