import ApiDocs.Proofs.Markdown.Relevance
import ApiDocs.Proofs.Table

namespace ApiDocs

/-! Details of members.  Results and parameters are described in the bodies of members only,
and a page without details is the page of documentation that has none. -/

open Metadata

namespace Documentation

/-- An entry that says nothing about a result or about parameters. -/
def Entry.withoutDetails (entry : Entry) : Entry :=
  { entry with returns? := none, parameters := Table.empty }

structure Entry.SameSection (left right : Entry) : Prop where
  importance : left.importance = right.importance
  summary : left.summary? = right.summary?
  remarks : left.remarks? = right.remarks?
  examples : left.example? = right.example?

structure Entry.SameBody (detailed : Bool) (left right : Entry) : Prop where
  summary : left.summary? = right.summary?
  remarks : left.remarks? = right.remarks?
  returns : detailed = true → left.returns? = right.returns?
  parameters : detailed = true → ∀ name, left.parameters.get? name = right.parameters.get? name

def Index.withoutDetails (index : Index) : Index :=
  index.mapValues Entry.withoutDetails

theorem Index.rel_withoutDetails {related : Entry → Entry → Prop}
    (index : Index) (h : ∀ entry, related entry.withoutDetails entry) (name : String) :
    Option.Rel related (index.withoutDetails.get? name) (index.get? name) := by
  rw [withoutDetails, Table.get?_mapValues]
  cases index.get? name with
  | none => exact .none
  | some entry => exact .some (h entry)

theorem Index.importance_withoutDetails (index : Index) (name : String) :
    index.withoutDetails.importance name = index.importance name :=
  importance_congr (index.rel_withoutDetails (fun _ => rfl) name)

end Documentation

namespace Markdown

open Documentation (Index Entry)

def MemberItem.detailBlocks (entry : Entry) (parameters : List Parameter) : List String :=
  (present entry.returns?).map ("**Returns:** " ++ ·) ++ parameterBlock entry parameters

def Section.bare (content : Section) : Section :=
  { content with categories := content.categories.map Category.bare }

/-- Two indexes that say the same where a page shows it: about a type all but details, and
about a member that is listed its summary and remarks and, if details are shown, those. -/
structure ShowSame (config : Config) (index other : Index) (types : List ExportedType) :
    Prop where
  sections : ∀ type ∈ types,
    Option.Rel Entry.SameSection (index.get? type.docName) (other.get? type.docName)
  bodies : ∀ type ∈ types, isRendered config index type = true → type.kind.isEnum = false →
    ∀ member ∈ Category.listed type, Option.Rel (Entry.SameBody config.memberDetails)
      (index.get? (type.memberId member)) (other.get? (type.memberId member))

/-- Where details show. -/
structure DetailsInBodies (config : Config) (index : Index) (types : List ExportedType) :
    Prop where
  erased : render { config with memberDetails := false } index types =
    render { config with memberDetails := true } index.withoutDetails types
  sections : ∀ type entry, (Section.build { config with memberDetails := true } index type
      entry).bare = (Section.build { config with memberDetails := false } index type entry).bare
  blocks : ∀ entry parameters,
    MemberItem.blocks { config with memberDetails := true } entry parameters =
      MemberItem.blocks { config with memberDetails := false } entry parameters ++
        MemberItem.detailBlocks entry parameters
  showSame : ∀ other, ShowSame config index other types →
    render config other types = render config index types

variable {config settings : Config} {index other : Index} {type : ExportedType}

theorem blocksOf_eq_of_sameSection {left right : Entry} (h : left.SameSection right) :
    Section.blocksOf left = Section.blocksOf right := by
  rw [Section.blocksOf, Section.blocksOf, h.summary, h.remarks, h.examples]

theorem bodyOf_eq_of_sameBody {left right : Entry} (h : left.SameBody config.memberDetails right)
    (parameters : List Parameter) :
    MemberItem.bodyOf config left parameters = MemberItem.bodyOf config right parameters := by
  have hblocks : MemberItem.blocks config left parameters =
      MemberItem.blocks config right parameters := by
    rw [MemberItem.blocks, MemberItem.blocks, h.summary, h.remarks]
    cases hdetailed : config.memberDetails with
    | false => rfl
    | true =>
        have hlines : MemberItem.parameterLines left parameters =
            MemberItem.parameterLines right parameters := by
          apply List.filterMap_congr
          intro parameter _
          rw [h.parameters hdetailed]
        simp only [MemberItem.parameterBlock, h.returns hdetailed, hlines]
  rw [MemberItem.bodyOf, MemberItem.bodyOf, hblocks]

theorem parameterLines_withoutDetails (entry : Entry) (parameters : List Parameter) :
    MemberItem.parameterLines entry.withoutDetails parameters = [] := by
  rw [MemberItem.parameterLines, List.filterMap_eq_nil_iff]
  intro parameter _
  rfl

theorem parameterBlock_withoutDetails (entry : Entry) (parameters : List Parameter) :
    MemberItem.parameterBlock entry.withoutDetails parameters = [] := by
  rw [MemberItem.parameterBlock, parameterLines_withoutDetails]

theorem blocks_withoutDetails (config : Config) (entry : Entry) (parameters : List Parameter) :
    MemberItem.blocks { config with memberDetails := true } entry.withoutDetails parameters =
      MemberItem.blocks { config with memberDetails := false } entry parameters := by
  rw [MemberItem.blocks, MemberItem.blocks, parameterBlock_withoutDetails, if_pos rfl,
    if_neg Bool.false_ne_true]
  rfl

theorem blocksOf_withoutDetails (entry : Entry) :
    Section.blocksOf entry.withoutDetails = Section.blocksOf entry := rfl

theorem renderType?_withoutDetails (config : Config) (index : Index) (type : ExportedType) :
    renderType? { config with memberDetails := true } index.withoutDetails type =
      renderType? { config with memberDetails := false } index type := by
  apply renderType?_congr
  · rfl
  · exact index.rel_withoutDetails blocksOf_withoutDetails type.docName
  · intro _
    apply Category.ofType_congr
    intro _ member _
    apply MemberItem.build_congr
    refine index.rel_withoutDetails ?_ (type.memberId member)
    intro entry
    rw [MemberItem.bodyOf, MemberItem.bodyOf, blocks_withoutDetails]

theorem render_withoutDetails (config : Config) (index : Index) (types : List ExportedType) :
    render { config with memberDetails := true } index.withoutDetails types =
      render { config with memberDetails := false } index types := by
  apply render_congr
  · intro type _
    exact index.importance_withoutDetails type.docName
  · intro type _
    exact renderType?_withoutDetails config index type

theorem bare_build (type : ExportedType) (entry : Entry) :
    (Section.build config index type entry).bare =
      (Section.build settings index type entry).bare := by
  have hcategories : (Category.ofType config index type).map Category.bare =
      (Category.ofType settings index type).map Category.bare := by
    cases hkind : type.kind.isEnum with
    | true => rw [Category.ofType, Category.ofType, if_pos hkind, if_pos hkind]
    | false =>
        rw [Category.ofType_eq hkind, Category.ofType_eq hkind, List.map_map, List.map_map]
        apply List.map_congr_left
        intro title _
        exact Category.bare_under config settings index index type title
  simp only [Section.bare, Section.build, hcategories]

theorem render_eq_of_showSame {types : List ExportedType}
    (h : ShowSame config index other types) :
    render config index types = render config other types := by
  apply render_congr
  · intro type hmem
    apply Index.importance_congr
    exact rel_mono (h.sections type hmem) fun _ _ hsame => hsame.importance
  · intro type hmem
    apply renderType?_congr
    · rfl
    · exact rel_mono (h.sections type hmem) fun _ _ hsame => blocksOf_eq_of_sameSection hsame
    · intro hrendered
      apply Category.ofType_congr
      intro hkind member hlisted
      apply MemberItem.build_congr
      exact rel_mono (h.bodies type hmem hrendered hkind member hlisted)
        fun _ _ hsame => bodyOf_eq_of_sameBody hsame member.parameters

/-- What documentation says about results and parameters shows in the bodies of members or
nowhere, and an example shows for a type or nowhere. -/
theorem detailsInBodies (config : Config) (index : Index) (types : List ExportedType) :
    DetailsInBodies config index types where
  erased := (render_withoutDetails config index types).symm
  sections := fun type entry => bare_build type entry
  blocks := by
    intro entry parameters
    simp [MemberItem.blocks, MemberItem.detailBlocks]
  showSame := fun _ hsame => (render_eq_of_showSame hsame).symm

end Markdown

end ApiDocs
