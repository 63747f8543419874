import ApiDocs.Proofs.Prose.Pieces

namespace ApiDocs

/-! Documentation that moves to the right as a whole.  Elements and continuation lines move
by the same width, and what the documentation renders to stays as it is. -/

namespace Text

/-- Puts `width` spaces behind every newline that no other newline follows. -/
def shiftChars (width : Nat) : List Char → List Char
  | [] => []
  | c :: rest =>
      if c = '\n' ∧ rest.head? ≠ some '\n' then
        c :: (List.replicate width ' ' ++ shiftChars width rest)
      else
        c :: shiftChars width rest

def shift (width : Nat) (text : String) : String :=
  String.ofList (shiftChars width text.toList)

/-- Behind every newline stands another newline, or `column` spaces at least. -/
def Indented (column : Nat) (cs : List Char) : Prop :=
  ∀ line, '\n' :: line <:+ cs →
    line.head? = some '\n' ∨ List.replicate column ' ' <+: line

theorem indented_nil (column : Nat) : Indented column [] := by
  intro line hsuffix
  exact absurd (List.suffix_nil.mp hsuffix) (by simp)

theorem indented_cons {column : Nat} {c : Char} {rest : List Char} :
    Indented column (c :: rest) ↔
      (c = '\n' → rest.head? = some '\n' ∨ List.replicate column ' ' <+: rest) ∧
        Indented column rest := by
  constructor
  · intro h
    refine ⟨?_, ?_⟩
    · rintro rfl
      exact h rest (List.suffix_refl _)
    · intro line hsuffix
      exact h line (hsuffix.trans (List.suffix_cons c rest))
  · rintro ⟨hfirst, hrest⟩ line hsuffix
    rcases List.suffix_cons_iff.mp hsuffix with heq | hsuffix
    · obtain ⟨hc, rfl⟩ := List.cons.inj heq
      exact hfirst hc.symm
    · exact hrest line hsuffix

instance decidableIndented (column : Nat) : (cs : List Char) → Decidable (Indented column cs)
  | [] => .isTrue (indented_nil column)
  | _ :: rest =>
      have := decidableIndented column rest
      decidable_of_iff' _ indented_cons

@[simp] theorem toList_shift (width : Nat) (text : String) :
    (shift width text).toList = shiftChars width text.toList := by
  simp [shift]

theorem outdentChars_shiftChars_append {column width : Nat} {cs rest shifted : List Char}
    (h : Indented column cs)
    (hrest : outdentChars (column + width) shifted = outdentChars column rest) :
    outdentChars (column + width) (shiftChars width cs ++ shifted) =
      outdentChars column (cs ++ rest) := by
  induction cs with
  | nil => exact hrest
  | cons c line ih =>
      obtain ⟨hline, hindented⟩ := indented_cons.mp h
      have ih := ih hindented
      by_cases hbreak : c = '\n' ∧ line.head? ≠ some '\n'
      · obtain ⟨rfl, hhead⟩ := hbreak
        obtain ⟨inner, rfl⟩ := (hline rfl).resolve_left hhead
        rw [shiftChars, if_pos ⟨rfl, hhead⟩, List.cons_append, List.append_assoc,
          outdentChars_cons, if_pos rfl, outdentChars_replicate_append, ih, List.cons_append,
          outdentChars_cons, if_pos rfl, List.append_assoc, outdentChars_replicate_append,
          dropSpaces_replicate_append, ← List.append_assoc, List.replicate_append_replicate,
          Nat.add_comm width column, dropSpaces_replicate_append]
      · rw [shiftChars, if_neg hbreak, List.cons_append, outdentChars_cons, ih,
          List.cons_append, outdentChars_cons]
        by_cases hc : c = '\n'
        · -- An empty line follows, which starts with no space in either text.
          have hhead : line.head? = some '\n' :=
            Decidable.byContradiction fun hne => hbreak ⟨hc, hne⟩
          obtain ⟨inner, rfl⟩ := List.head?_eq_some_iff.mp hhead
          simp only [hc, if_true, List.cons_append, outdentChars_cons, dropSpaces_newline]
        · rw [if_neg hc, if_neg hc]

theorem fixIndentation_shift {column width : Nat} {text : String}
    (h : Indented column text.toList) :
    fixIndentation (shift width text) ((column + width : Nat) : Int) =
      fixIndentation text column := by
  have hchars : outdentChars (column + width) (shiftChars width text.toList ++ []) =
      outdentChars column (text.toList ++ []) :=
    outdentChars_shiftChars_append h rfl
  rw [List.append_nil, List.append_nil] at hchars
  rw [← String.toList_inj, toList_fixIndentation, toList_fixIndentation, toList_shift,
    Int.toNat_natCast, Int.toNat_natCast, hchars]

theorem fixIndentation_join_shift {column width : Nat} {texts : List String}
    (h : ∀ text ∈ texts, Indented column text.toList) :
    fixIndentation (String.join (texts.map (shift width))) ((column + width : Nat) : Int) =
      fixIndentation (String.join texts) column := by
  have hchars : outdentChars (column + width) (String.join (texts.map (shift width))).toList =
      outdentChars column (String.join texts).toList := by
    induction texts with
    | nil => rfl
    | cons text rest ih =>
        rw [List.forall_mem_cons] at h
        rw [List.map_cons, String.join_cons, String.join_cons, String.toList_append,
          String.toList_append, toList_shift]
        exact outdentChars_shiftChars_append h.1 (ih h.2)
  rw [← String.toList_inj, toList_fixIndentation, toList_fixIndentation,
    Int.toNat_natCast, Int.toNat_natCast, hchars]

theorem shiftChars_of_not_mem {width : Nat} {cs : List Char} (h : '\n' ∉ cs) :
    shiftChars width cs = cs := by
  induction cs with
  | nil => rfl
  | cons c rest ih =>
      rw [List.mem_cons, not_or] at h
      rw [shiftChars, if_neg (fun hbreak => h.1 hbreak.1.symm), ih h.2]

theorem all_isBlank_shiftChars (width : Nat) (cs : List Char) :
    (shiftChars width cs).all isBlank = cs.all isBlank := by
  induction cs with
  | nil => rfl
  | cons c rest ih =>
      have hspace : isBlank ' ' = true := by decide
      rw [shiftChars]
      split <;> simp [ih, hspace]

theorem allBlank_join_shift (width : Nat) (texts : List String) :
    allBlank (String.join (texts.map (shift width))) = allBlank (String.join texts) := by
  induction texts with
  | nil => rfl
  | cons text rest ih =>
      rw [allBlank, allBlank] at ih
      rw [List.map_cons, String.join_cons, String.join_cons, allBlank, allBlank,
        String.toList_append, String.toList_append, List.all_append, List.all_append,
        toList_shift, all_isBlank_shiftChars, ih]

theorem join_shift_of_not_mem {width : Nat} {texts : List String}
    (h : '\n' ∉ (String.join texts).toList) :
    String.join (texts.map (shift width)) = String.join texts := by
  induction texts with
  | nil => rfl
  | cons text rest ih =>
      rw [String.join_cons, String.toList_append, List.mem_append, not_or] at h
      rw [List.map_cons, String.join_cons, String.join_cons, ih h.2, shift,
        shiftChars_of_not_mem h.1, String.ofList_toList]

end Text

namespace Xml

def Position.shift (width : Nat) (position : Position) : Position :=
  { position with column := position.column + width }

namespace Node

def shift (width : Nat) : Node → Node
  | text value => text (Text.shift width value)
  | other value => other value
  | element tag attributes position children =>
      element tag attributes (position.shift width) (shiftAll children)
where
  shiftAll : List Node → List Node
    | [] => []
    | node :: rest => shift width node :: shiftAll rest

/-- The texts below nodes, which no comment and no tag parts any more. -/
def texts : Node → List String
  | text value => [value]
  | other _ => []
  | element _ _ _ children => ofAll children
where
  ofAll : List Node → List String
    | [] => []
    | node :: rest => texts node ++ ofAll rest

mutual

theorem innerText_eq_join_texts (node : Node) : node.innerText = String.join node.texts := by
  cases node with
  | text value => simp [innerText, texts]
  | other value => rfl
  | element tag attributes position children =>
      rw [innerText, texts]
      exact innerTexts_eq_join_texts children

theorem innerTexts_eq_join_texts (nodes : List Node) :
    innerText.texts nodes = String.join (texts.ofAll nodes) := by
  cases nodes with
  | nil => rfl
  | cons node rest =>
      rw [innerText.texts, texts.ofAll, String.join_append, innerText_eq_join_texts node,
        innerTexts_eq_join_texts rest]

end

mutual

theorem texts_shift (width : Nat) (node : Node) :
    (node.shift width).texts = node.texts.map (Text.shift width) := by
  cases node with
  | text value => rfl
  | other value => rfl
  | element tag attributes position children =>
      rw [shift, texts, texts]
      exact texts_shiftAll width children

theorem texts_shiftAll (width : Nat) (nodes : List Node) :
    texts.ofAll (shift.shiftAll width nodes) =
      (texts.ofAll nodes).map (Text.shift width) := by
  cases nodes with
  | nil => rfl
  | cons node rest =>
      rw [shift.shiftAll, texts.ofAll, texts.ofAll, List.map_append, texts_shift width node,
        texts_shiftAll width rest]

end

end Node

namespace Element

def shift (width : Nat) (element : Element) : Element where
  tag := element.tag
  attributes := element.attributes
  position := element.position.shift width
  children := Node.shift.shiftAll width element.children

theorem toNode_shift (width : Nat) (element : Element) :
    (element.shift width).toNode = element.toNode.shift width := rfl

theorem text_shift (width : Nat) (element : Element) :
    (element.shift width).text =
      String.join ((Node.texts.ofAll element.children).map (Text.shift width)) := by
  rw [text, Node.innerText_eq_join_texts, toNode_shift, Node.texts_shift]
  rfl

theorem text_eq_join_texts (element : Element) :
    element.text = String.join (Node.texts.ofAll element.children) :=
  Node.innerText_eq_join_texts element.toNode

end Element

end Xml

namespace Prose

namespace Piece

def shift (width : Nat) : Piece → Piece
  | text value column => text (Text.shift width value) (column + width)
  | code content column => code (Xml.Node.shift.shiftAll width content) (column + width)
  | reference see => reference (see.shift width)

/-- Text and code carry the indentation of the file, and a reference has no line breaks in
a label of its own. -/
def Movable : Piece → Prop
  | text value column => Text.Indented column value.toList
  | code content column =>
      ∀ value ∈ Xml.Node.texts.ofAll content, Text.Indented column value.toList
  | reference see => Text.allBlank see.text = true ∨ '\n' ∉ see.text.toList

instance decidableMovable : (piece : Piece) → Decidable piece.Movable
  | text value column => inferInstanceAs (Decidable (Text.Indented column value.toList))
  | code content column => inferInstanceAs (Decidable
      (∀ value ∈ Xml.Node.texts.ofAll content, Text.Indented column value.toList))
  | reference see => inferInstanceAs (Decidable
      (Text.allBlank see.text = true ∨ '\n' ∉ see.text.toList))

theorem label_shift {see : Xml.Element} (h : (reference see).Movable) (width : Nat)
    (target context : String) :
    label (see.shift width).text target context = label see.text target context := by
  rw [label, label, Xml.Element.text_shift, see.text_eq_join_texts, Text.allBlank_join_shift]
  rw [Movable, see.text_eq_join_texts] at h
  rcases h with hblank | hline
  · rw [if_pos hblank, if_pos hblank]
  · rw [Text.join_shift_of_not_mem hline]

theorem reference_shift {see : Xml.Element} (h : (reference see).Movable) (width : Nat)
    (context : String) :
    Prose.reference context (see.shift width) = Prose.reference context see := by
  have hattribute : ∀ name, (see.shift width).get? name = see.get? name := fun _ => rfl
  have hline : (see.shift width).position.line = see.position.line := rfl
  simp only [Prose.reference, hattribute, hline, label_shift h]

theorem render_shift_of_movable {piece : Piece} (h : piece.Movable) (width : Nat)
    (language context : String) :
    (piece.shift width).render language context = piece.render language context := by
  cases piece with
  | text value column =>
      rw [shift, render, render, Text.fixIndentation_shift h]
  | code content column =>
      rw [shift, render, render, codeBlock, codeBlock, Xml.Node.innerTexts_eq_join_texts,
        Xml.Node.innerTexts_eq_join_texts, Xml.Node.texts_shiftAll,
        Text.fixIndentation_join_shift h]
  | reference see => exact reference_shift h width context

theorem renderAll_shift {list : List Piece} (h : ∀ piece ∈ list, piece.Movable) (width : Nat)
    (language context : String) :
    renderAll language context (list.map (shift width)) =
      renderAll language context list := by
  have hrender : (list.map (shift width)).mapM (render language context) =
      list.mapM (render language context) := by
    induction list with
    | nil => rfl
    | cons piece rest ih =>
        rw [List.forall_mem_cons] at h
        rw [List.map_cons, List.mapM_cons, List.mapM_cons, render_shift_of_movable h.1,
          ih h.2]
  rw [renderAll, renderAll, hrender]

end Piece

mutual

theorem pieces_shift (column width : Nat) (node : Xml.Node) :
    pieces (column + width) (node.shift width) =
      (pieces column node).map (Piece.shift width) := by
  cases node with
  | text value => rfl
  | other value => rfl
  | element tag attributes position children =>
      rw [Xml.Node.shift, pieces, pieces]
      split
      · rfl
      · split
        · rfl
        · exact pieces_shiftAll position.column width children

theorem pieces_shiftAll (column width : Nat) (nodes : List Xml.Node) :
    pieces.ofAll (column + width) (Xml.Node.shift.shiftAll width nodes) =
      (pieces.ofAll column nodes).map (Piece.shift width) := by
  cases nodes with
  | nil => rfl
  | cons node rest =>
      rw [Xml.Node.shift.shiftAll, pieces.ofAll, pieces.ofAll, List.map_append,
        pieces_shift column width node, pieces_shiftAll column width rest]

end

/-- Documentation that carries the indentation of its file renders alike, or fails alike,
wherever it is moved to the right together with all that encloses it. -/
theorem render_shift {column : Nat} {node : Xml.Node}
    (h : ∀ piece ∈ pieces column node, piece.Movable) (width : Nat)
    (language context : String) :
    render language context (column + width) (node.shift width) =
      render language context column node := by
  rw [render_eq_renderAll, render_eq_renderAll, pieces_shift, Piece.renderAll_shift h]

/-- Prose, code with markup inside and a reference whose label is blank. -/
theorem render_shift_summary :
    let summary : Xml.Node := .element "summary" [] ⟨3, 4⟩ [
      .text "\n    Steps:\n\n      * first\n    ",
      .element "see" [("cref", "T:N.D")] ⟨6, 4⟩ [.text "\n"],
      .element "code" [] ⟨7, 4⟩ [.text "\n    if (", .element "b" [] ⟨8, 8⟩ [.text "x"],
        .text ")\n        Run();\n    "]]
    (∀ piece ∈ pieces 2 summary, piece.Movable) ∧
      render "csharp" "N.C" (2 + 3) (summary.shift 3) = render "csharp" "N.C" 2 summary := by
  intro summary
  have hmovable : ∀ piece ∈ pieces 2 summary, piece.Movable := by decide
  exact ⟨hmovable, render_shift hmovable 3 "csharp" "N.C"⟩

end Prose

end ApiDocs
