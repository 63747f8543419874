import ApiDocs.Proofs.Markdown.Order

namespace ApiDocs.Markdown

/-! What stands on a page: the text of every rendered type, once for each of its places in
the list of the provider. -/

open Metadata
open Documentation (Index Entry)

/-- A type is rendered if it is documented and no delegate that is left out. -/
def isRendered (config : Config) (index : Index) (type : ExportedType) : Bool :=
  index.contains type.docName && !(type.kind = .delegate && config.skipDelegates)

def renderedPlaces (config : Config) (index : Index) (types : List ExportedType) :
    List (ExportedType × Nat) :=
  types.zipIdx.filter fun place => isRendered config index place.1

def IsTrimmed (text body : String) : Prop :=
  (∃ newlines, text.toList = body.toList ++ List.replicate newlines '\n') ∧
    body.toList.getLast? ≠ some '\n'

/-- The page of a list of types as a function of what the order of the list decides. -/
structure StableRendering (config : Config) (index : Index) (types : List ExportedType) :
    Prop where
  arrangement : ∃ arranged, Arranges index (renderedPlaces config index types) arranged ∧
    ∀ other, Arranges index (renderedPlaces config index types) other → other = arranged
  text : ∀ arranged, Arranges index (renderedPlaces config index types) arranged →
    ∃ body : ExportedType → String,
      (∀ place ∈ arranged, ∃ text, renderType? config index place.1 = some text ∧
        IsTrimmed text (body place.1)) ∧
      render config index types =
        String.join (arranged.map fun place => body place.1 ++ "\n\n---\n\n")
  reordered : ∀ others,
    (∀ importance,
      ofImportance index importance others = ofImportance index importance types) →
    render config index others = render config index types
  undocumented : ∀ others,
    others.filter (fun type => index.contains type.docName) =
      types.filter (fun type => index.contains type.docName) →
    render config index others = render config index types

/-! The text of a section. -/

theorem anchorLine_ne_empty (name : String) : anchorLine name ≠ "" := by
  simp [anchorLine]

theorem Section.text_ne_empty (content : Section) : content.text ≠ "" := by
  simp [Section.text, anchorLine_ne_empty]

theorem entryFor?_isSome (config : Config) (index : Index) (type : ExportedType) :
    (entryFor? config index type).isSome = isRendered config index type := by
  unfold entryFor? isRendered isSkipped
  cases hskipped : (decide (type.kind = .delegate) && config.skipDelegates) with
  | true => simp
  | false => simp [Table.contains]

theorem renderType?_isSome (config : Config) (index : Index) (type : ExportedType) :
    (renderType? config index type).isSome = isRendered config index type := by
  rw [renderType?, Option.isSome_map, entryFor?_isSome]

theorem renderType?_ne_empty {config : Config} {index : Index} {type : ExportedType}
    {text : String} (h : renderType? config index type = some text) : text ≠ "" := by
  rw [renderType?, Option.map_eq_some_iff] at h
  obtain ⟨entry, -, rfl⟩ := h
  exact Section.text_ne_empty _

theorem present_renderType? (config : Config) (index : Index) (type : ExportedType) :
    present (renderType? config index type) = (renderType? config index type).toList := by
  cases htext : renderType? config index type with
  | none => rfl
  | some text =>
      have hempty : text.isEmpty = false := by
        rw [String.isEmpty_eq_false_iff]
        exact renderType?_ne_empty htext
      simp [present, hempty]

/-- The text of a rendered type as it stands before its rule. -/
def bodyOf (config : Config) (index : Index) (type : ExportedType) : String :=
  trimNewlines ((renderType? config index type).getD "")

theorem takeWhile_newline (chars : List Char) :
    chars.takeWhile (· == '\n') =
      List.replicate (chars.takeWhile (· == '\n')).length '\n' := by
  rw [List.eq_replicate_iff]
  refine ⟨rfl, ?_⟩
  intro char hmem
  have hall := List.all_takeWhile (p := (· == '\n')) (l := chars)
  rw [List.all_eq_true] at hall
  exact eq_of_beq (hall char hmem)

theorem isTrimmed_trimNewlines (text : String) : IsTrimmed text (trimNewlines text) := by
  have hparts : text.toList =
      (text.toList.reverse.dropWhile (· == '\n')).reverse ++
        (text.toList.reverse.takeWhile (· == '\n')).reverse := by
    rw [← List.reverse_append, List.takeWhile_append_dropWhile, List.reverse_reverse]
  rw [takeWhile_newline, List.reverse_replicate] at hparts
  rw [IsTrimmed, trimNewlines, String.toList_ofList]
  refine ⟨⟨_, hparts⟩, ?_⟩
  rw [List.getLast?_reverse]
  intro hhead
  have hnot := List.head?_dropWhile_not (· == '\n') text.toList.reverse
  rw [hhead] at hnot
  simp at hnot

/-! The page. -/

theorem map_closeSection (config : Config) (index : Index) (types : List ExportedType) :
    (types.flatMap fun type => present (renderType? config index type)).map closeSection =
      (types.filter (isRendered config index)).map fun type =>
        bodyOf config index type ++ "\n\n---\n\n" := by
  induction types with
  | nil => rfl
  | cons type rest ih =>
      have hsome := renderType?_isSome config index type
      rw [List.flatMap_cons, List.map_append, ih, present_renderType?]
      cases htext : renderType? config index type with
      | none =>
          rw [htext, Option.isSome_none] at hsome
          rw [List.filter_cons_of_neg (by simp [← hsome])]
          rfl
      | some text =>
          rw [htext, Option.isSome_some] at hsome
          rw [List.filter_cons_of_pos hsome.symm, List.map_cons, bodyOf, htext]
          rfl

theorem render_eq_join (config : Config) (index : Index) (types : List ExportedType) :
    render config index types =
      String.join (((order index types).filter (isRendered config index)).map fun type =>
        bodyOf config index type ++ "\n\n---\n\n") :=
  congrArg String.join (map_closeSection config index (order index types))

theorem exists_arranges_rendered (config : Config) (index : Index)
    (types : List ExportedType) :
    ∃ arranged, Arranges index (renderedPlaces config index types) arranged ∧
      arranged.map Prod.fst = (order index types).filter (isRendered config index) := by
  obtain ⟨arranged, harranges, hmap⟩ := exists_arranges_order index types
  refine ⟨_, harranges.filter _, ?_⟩
  rw [← hmap, List.filter_map]
  rfl

theorem render_filter_documented (config : Config) (index : Index)
    (types : List ExportedType) :
    render config index (types.filter fun type => index.contains type.docName) =
      render config index types := by
  rw [render_eq_join, render_eq_join, order_filter, List.filter_filter]
  congr 2
  apply List.filter_congr
  intro type _
  rw [isRendered, Bool.and_right_comm, Bool.and_self]

/-- A page holds every documented type once for each of its places, in descending order of
importance and in the order of the provider inside every importance. -/
theorem stableRendering (config : Config) (index : Index) (types : List ExportedType) :
    StableRendering config index types where
  arrangement := by
    obtain ⟨arranged, harranges, -⟩ := exists_arranges_rendered config index types
    refine ⟨arranged, harranges, ?_⟩
    intro other hother
    exact hother.unique harranges
  text := by
    intro arranged harranges
    obtain ⟨sorted, hsorted, hmap⟩ := exists_arranges_rendered config index types
    obtain rfl := harranges.unique hsorted
    refine ⟨bodyOf config index, ?_, ?_⟩
    · intro place hmem
      have hplace := (harranges.perm.mem_iff.mp hmem)
      rw [renderedPlaces, List.mem_filter] at hplace
      rw [← renderType?_isSome, Option.isSome_iff_exists] at hplace
      obtain ⟨-, text, htext⟩ := hplace
      refine ⟨text, htext, ?_⟩
      rw [bodyOf, htext]
      exact isTrimmed_trimNewlines text
    · rw [render_eq_join, ← hmap, List.map_map]
      rfl
  reordered := by
    intro others hclasses
    rw [render, render, order_eq_of_ofImportance_eq hclasses]
  undocumented := by
    intro others hdocumented
    rw [← render_filter_documented, hdocumented, render_filter_documented]

/-- Types of different importance and an undocumented type in another order. -/
theorem render_of_swapped :
    let index : Index := (Table.empty.insert "N.Low"
        ⟨.type, "N.Low", -1, some "Low.", none, none, none, Table.empty⟩).insert "N.High"
          ⟨.type, "N.High", 5, some "High.", none, none, none, Table.empty⟩
    let low : ExportedType := ⟨"N.Low", .classType, none, [], [], [], [], [], []⟩
    let high : ExportedType := ⟨"N.High", .struct, none, [], [], [], [], [], []⟩
    let hidden : ExportedType := ⟨"N.Hidden", .enum, none, ["A"], [], [], [], [], []⟩
    render .standard index [hidden, low, high, low] =
      render .standard index [high, low, low, hidden] := by
  intro index low high hidden
  apply (stableRendering .standard index [high, low, low, hidden]).reordered
  intro importance
  have hlow : index.importance low.docName = -1 := by decide
  have hhigh : index.importance high.docName = 5 := by decide
  have hhidden : index.importance hidden.docName = 0 := by decide
  simp only [ofImportance, List.filter_cons, List.filter_nil, hlow, hhigh, hhidden]
  grind

end ApiDocs.Markdown
