import ApiDocs.Prose

namespace ApiDocs.Prose

/-! Rendering by pieces.  Text, code and references render each on their own, whatever
encloses them; a node renders to what its pieces render to, in the order of the document. -/

/-- A part of documentation that renders on its own.  Text and code keep the column of
their parent. -/
inductive Piece where
  | text (value : String) (column : Nat)
  | code (content : List Xml.Node) (column : Nat)
  | reference (see : Xml.Element)

def Piece.render (language context : String) : Piece → Except Error String
  | text value column => .ok (Text.fixIndentation value column)
  | code content column =>
      .ok (codeBlock language (Xml.Node.innerText.texts content) column)
  | reference see => Prose.reference context see

def Piece.renderAll (language context : String) (list : List Piece) : Except Error String :=
  String.join <$> list.mapM (Piece.render language context)

def pieces (column : Nat) : Xml.Node → List Piece
  | .text value => [.text value column]
  | .other _ => []
  | .element tag attributes position children =>
      if tag = "see" then
        [.reference ⟨tag, attributes, position, children⟩]
      else if tag = "code" then
        [.code children column]
      else
        ofAll position.column children
where
  ofAll (column : Nat) : List Xml.Node → List Piece
    | [] => []
    | node :: rest => pieces column node ++ ofAll column rest

namespace Piece

@[simp] theorem renderAll_nil (language context : String) :
    renderAll language context [] = .ok "" := rfl

theorem renderAll_singleton (language context : String) (piece : Piece) :
    renderAll language context [piece] = piece.render language context := by
  rw [renderAll, List.mapM_cons]
  cases piece.render language context with
  | error error => rfl
  | ok output => simp [Bind.bind, Except.bind, Functor.map, Except.map, Pure.pure, Except.pure]

theorem renderAll_append (language context : String) (first second : List Piece) :
    renderAll language context (first ++ second) =
      match renderAll language context first with
      | .error error => .error error
      | .ok output =>
          match renderAll language context second with
          | .error error => .error error
          | .ok others => .ok (output ++ others) := by
  simp only [renderAll, List.mapM_append]
  cases first.mapM (render language context) with
  | error error => rfl
  | ok texts =>
      cases second.mapM (render language context) with
      | error error => rfl
      | ok others =>
          simp [Bind.bind, Except.bind, Functor.map, Except.map, Pure.pure, Except.pure,
            String.join_append]

end Piece

mutual

theorem render_eq_renderAll (language context : String) (column : Nat) (node : Xml.Node) :
    render language context column node =
      Piece.renderAll language context (pieces column node) := by
  cases node with
  | text value => rw [render, pieces, Piece.renderAll_singleton, Piece.render]
  | other value => rw [render, pieces, Piece.renderAll_nil]
  | element tag attributes position children =>
      rw [render, pieces]
      split
      · rw [Piece.renderAll_singleton, Piece.render]
      · split
        · rw [Piece.renderAll_singleton, Piece.render]
        · exact renderAll_eq_renderAll language context position.column children

theorem renderAll_eq_renderAll (language context : String) (column : Nat)
    (nodes : List Xml.Node) :
    render.renderAll language context column nodes =
      Piece.renderAll language context (pieces.ofAll column nodes) := by
  cases nodes with
  | nil => rfl
  | cons node rest =>
      rw [render.renderAll, render_eq_renderAll language context column node,
        renderAll_eq_renderAll language context column rest, pieces.ofAll]
      exact (Piece.renderAll_append language context _ _).symm

end

end ApiDocs.Prose
