import ApiDocs.Proofs.Markdown.Category
import ApiDocs.Proofs.Markdown.Page

namespace ApiDocs

/-! What a page depends on.  Of the documentation, only what it says about the names of the
types and about the members that are listed; of an enumeration, no member. -/

open Metadata

theorem rel_mono {α β : Type} {strong weak : α → β → Prop} {left? : Option α} {right? : Option β}
    (h : Option.Rel strong left? right?) (hweak : ∀ left right, strong left right → weak left right) :
    Option.Rel weak left? right? := by
  cases h with
  | none => exact .none
  | some hstrong => exact .some (hweak _ _ hstrong)

namespace Documentation

/-- Entries that say the same.  Parameters are described by name, in any order. -/
structure Entry.Same (left right : Entry) : Prop where
  kind : left.kind = right.kind
  name : left.name = right.name
  importance : left.importance = right.importance
  summary : left.summary? = right.summary?
  remarks : left.remarks? = right.remarks?
  returns : left.returns? = right.returns?
  examples : left.example? = right.example?
  parameters : ∀ name, left.parameters.get? name = right.parameters.get? name

theorem Entry.Same.refl (entry : Entry) : entry.Same entry :=
  ⟨rfl, rfl, rfl, rfl, rfl, rfl, rfl, fun _ => rfl⟩

namespace Index

def AgreeOn (first second : Index) (name : String) : Prop :=
  Option.Rel Entry.Same (first.get? name) (second.get? name)

variable {first second : Index} {name : String}

theorem agreeOn_of_get?_eq (h : first.get? name = second.get? name) :
    first.AgreeOn second name := by
  rw [AgreeOn, h]
  cases second.get? name with
  | none => exact .none
  | some entry => exact .some (.refl entry)

theorem importance_congr
    (h : Option.Rel (fun left right => Entry.importance left = Entry.importance right)
      (first.get? name) (second.get? name)) :
    first.importance name = second.importance name := by
  rw [Index.importance, Index.importance]
  generalize first.get? name = left? at h
  generalize second.get? name = right? at h
  cases h with
  | none => rfl
  | some himportance => exact himportance

theorem AgreeOn.importance (h : first.AgreeOn second name) :
    first.importance name = second.importance name :=
  importance_congr (rel_mono h fun _ _ hsame => hsame.importance)

end Index

end Documentation

namespace Metadata.ExportedType

/-- The names that the text of a type shows: its own, and those of the members in its
lists. -/
inductive Shows (type : ExportedType) : String → Prop where
  | name : Shows type type.docName
  | member {member : Member} (hkind : type.kind.isEnum = false)
      (hlisted : member ∈ Markdown.Category.listed type) : Shows type (type.memberId member)

/-- A type with the members that an enumeration has besides its values left out. -/
def withoutEnumMembers (type : ExportedType) : ExportedType :=
  if type.kind.isEnum then
    { type with constructors := [], methods := [], properties := [], fields := [], events := [] }
  else
    type

@[simp] theorem docName_withoutEnumMembers (type : ExportedType) :
    type.withoutEnumMembers.docName = type.docName := by
  rw [withoutEnumMembers]
  split <;> rfl

end Metadata.ExportedType

namespace Markdown

open Documentation (Index Entry)

/-- The names whose documentation matters for a page. -/
inductive IsRelevant (config : Config) (index : Index) (types : List ExportedType) :
    String → Prop where
  | type {type : ExportedType} (hmem : type ∈ types) :
      IsRelevant config index types type.docName
  | shown {type : ExportedType} {name : String} (hmem : type ∈ types)
      (hrendered : isRendered config index type = true) (hshown : type.Shows name) :
      IsRelevant config index types name

variable {config : Config} {index other : Index} {type : ExportedType}

theorem bodyOf_eq_of_same {left right : Entry} (h : left.Same right) (config : Config)
    (parameters : List Parameter) :
    MemberItem.bodyOf config left parameters = MemberItem.bodyOf config right parameters := by
  have hlines : MemberItem.parameterLines left parameters =
      MemberItem.parameterLines right parameters := by
    apply List.filterMap_congr
    intro parameter _
    rw [h.parameters]
  simp only [MemberItem.bodyOf, MemberItem.blocks, MemberItem.parameterBlock, h.summary,
    h.remarks, h.returns, hlines]

theorem blocksOf_eq_of_same {left right : Entry} (h : left.Same right) :
    Section.blocksOf left = Section.blocksOf right := by
  simp only [Section.blocksOf, h.summary, h.remarks, h.examples]

theorem MemberItem.build_congr {settings : Config} {member : Member}
    (h : Option.Rel (fun left right =>
        bodyOf config left member.parameters = bodyOf settings right member.parameters)
      (index.get? (type.memberId member)) (other.get? (type.memberId member))) :
    MemberItem.build config index type member = MemberItem.build settings other type member := by
  rw [MemberItem.build, MemberItem.build]
  generalize index.get? (type.memberId member) = left? at h
  generalize other.get? (type.memberId member) = right? at h
  cases h with
  | none => rfl
  | some hbody => simp only [hbody]

theorem Category.ofType_congr {settings : Config}
    (h : type.kind.isEnum = false → ∀ member ∈ Category.listed type,
      MemberItem.build config index type member = MemberItem.build settings other type member) :
    Category.ofType config index type = Category.ofType settings other type := by
  cases hkind : type.kind.isEnum with
  | true => rw [Category.ofType, Category.ofType, if_pos hkind, if_pos hkind]
  | false =>
      rw [Category.ofType_eq hkind, Category.ofType_eq hkind]
      apply List.map_congr_left
      intro title _
      rw [Category.under, Category.under, Category.mk.injEq]
      refine ⟨rfl, ?_⟩
      apply List.map_congr_left
      intro member hmem
      exact h hkind member (List.mem_filter.mp hmem).1

theorem renderType?_congr {settings : Config}
    (hskipped : isSkipped config type = isSkipped settings type)
    (hentry : Option.Rel (fun left right => Section.blocksOf left = Section.blocksOf right)
      (index.get? type.docName) (other.get? type.docName))
    (hcategories : isRendered config index type = true →
      Category.ofType config index type = Category.ofType settings other type) :
    renderType? config index type = renderType? settings other type := by
  have hisSome := entryFor?_isSome config index type
  rw [entryFor?] at hisSome
  rw [renderType?, renderType?, entryFor?, entryFor?, ← hskipped]
  cases hskip : isSkipped config type with
  | true => rw [if_pos rfl, if_pos rfl, Option.map_none, Option.map_none]
  | false =>
      rw [hskip, if_neg Bool.false_ne_true] at hisSome
      rw [if_neg Bool.false_ne_true, if_neg Bool.false_ne_true]
      generalize index.get? type.docName = left? at hentry hisSome
      generalize other.get? type.docName = right? at hentry
      cases hentry with
      | none => rw [Option.map_none, Option.map_none]
      | some hblocks =>
          rw [Option.map_some, Option.map_some, Section.build, Section.build, hblocks,
            hcategories hisSome.symm]

theorem MemberItem.build_eq_of_agreeOn {member : Member}
    (h : index.AgreeOn other (type.memberId member)) :
    MemberItem.build config index type member = MemberItem.build config other type member := by
  apply MemberItem.build_congr
  exact rel_mono h fun _ _ hsame => bodyOf_eq_of_same hsame config member.parameters

theorem renderType?_eq_of_agreeOn (hname : index.AgreeOn other type.docName)
    (hshown : isRendered config index type = true →
      ∀ name, type.Shows name → index.AgreeOn other name) :
    renderType? config index type = renderType? config other type := by
  apply renderType?_congr rfl
  · exact rel_mono hname fun _ _ hsame => blocksOf_eq_of_same hsame
  · intro hrendered
    apply Category.ofType_congr
    intro hkind member hlisted
    exact MemberItem.build_eq_of_agreeOn (hshown hrendered _ (.member hkind hlisted))

theorem renderType?_withoutEnumMembers (config : Config) (index : Index)
    (type : ExportedType) :
    renderType? config index type.withoutEnumMembers = renderType? config index type := by
  rw [ExportedType.withoutEnumMembers]
  split
  · next hkind =>
      simp only [renderType?, entryFor?, isSkipped, Section.build, Category.ofType, hkind]
      rfl
  · rfl

theorem map_order {change : ExportedType → ExportedType} {types : List ExportedType}
    (h : ∀ type ∈ types,
      other.importance (change type).docName = index.importance type.docName) :
    (order index types).map change = order other (types.map change) := by
  apply List.map_mergeSort
  intro left hleft right hright
  rw [h left hleft, h right hright]

theorem render_map {settings : Config} {change : ExportedType → ExportedType}
    {types : List ExportedType}
    (himportance : ∀ type ∈ types,
      other.importance (change type).docName = index.importance type.docName)
    (htext : ∀ type ∈ types,
      renderType? settings other (change type) = renderType? config index type) :
    render settings other (types.map change) = render config index types := by
  have htexts : ((order index types).flatMap fun type =>
        present (renderType? settings other (change type))) =
      (order index types).flatMap fun type => present (renderType? config index type) := by
    apply List.flatMap_congr
    intro type hmem
    rw [htext type ((order_perm index types).mem_iff.mp hmem)]
  rw [render, render, ← map_order himportance, List.flatMap_map, htexts]

theorem render_congr {settings : Config} {types : List ExportedType}
    (himportance : ∀ type ∈ types,
      other.importance type.docName = index.importance type.docName)
    (htext : ∀ type ∈ types, renderType? settings other type = renderType? config index type) :
    render settings other types = render config index types := by
  have hrender : render settings other (types.map id) = render config index types :=
    render_map himportance htext
  rwa [List.map_id] at hrender

theorem render_withoutEnumMembers (config : Config) (index : Index)
    (types : List ExportedType) :
    render config index (types.map ExportedType.withoutEnumMembers) =
      render config index types := by
  apply render_map
  · intro type _
    rw [ExportedType.docName_withoutEnumMembers]
  · intro type _
    exact renderType?_withoutEnumMembers config index type

theorem render_eq_of_agreeOn {types : List ExportedType}
    (h : ∀ name, IsRelevant config index types name → index.AgreeOn other name) :
    render config other types = render config index types := by
  apply render_congr
  · intro type hmem
    exact (h _ (.type hmem)).importance.symm
  · intro type hmem
    refine (renderType?_eq_of_agreeOn (h _ (.type hmem)) ?_).symm
    intro hrendered name hshown
    exact h name (.shown hmem hrendered hshown)

/-- Documentation has an influence on a page under relevant names only, and the members of
enumerations have none. -/
structure DependsOnRelevant (config : Config) (index : Index) (types : List ExportedType) :
    Prop where
  agreeing : ∀ other, (∀ name, IsRelevant config index types name → index.AgreeOn other name) →
    render config other types = render config index types
  irrelevant : ∀ name entry, ¬ IsRelevant config index types name →
    render config (index.insert name entry) types = render config index types
  enumMembers : ∀ others,
    others.map ExportedType.withoutEnumMembers = types.map ExportedType.withoutEnumMembers →
    render config index others = render config index types

/-- Nothing else shows: no documentation of a name that is not relevant, and no member of an
enumeration. -/
theorem dependsOnRelevant (config : Config) (index : Index) (types : List ExportedType) :
    DependsOnRelevant config index types where
  agreeing := fun _ hagree => render_eq_of_agreeOn hagree
  irrelevant := by
    intro name entry hirrelevant
    apply render_eq_of_agreeOn
    intro relevant hrelevant
    have hne : relevant ≠ name := fun heq => hirrelevant (heq ▸ hrelevant)
    apply Documentation.Index.agreeOn_of_get?_eq
    rw [Table.get?_insert, if_neg hne]
  enumMembers := by
    intro others hothers
    rw [← render_withoutEnumMembers, hothers, render_withoutEnumMembers]

/-- Documentation of an accessor and of a value of an enumeration. -/
theorem render_of_accessor_documented :
    let entry (name : String) : Entry :=
      ⟨.type, name, 0, some name, none, none, none, Table.empty⟩
    let index : Index := (Table.empty.insert "N.C" (entry "N.C")).insert "N.E" (entry "N.E")
    let other : Index :=
      (index.insert "N.C.get_Size" (entry "accessor")).insert "N.E.A" (entry "value")
    let types : List ExportedType := [
      ⟨"N.C", .classType, none, [], [], [⟨"get_Size", none, [], false, false⟩],
        [⟨"Size", ⟨"System.Int32", []⟩, [], false⟩], [], []⟩,
      ⟨"N.E", .enum, none, ["A"], [], [], [], [⟨"A", ⟨"N.E", []⟩, true⟩], []⟩]
    (∀ name, IsRelevant .standard index types name → index.AgreeOn other name) ∧
      render .standard other types = render .standard index types := by
  intro entry index other types
  have hnames : ∀ name, IsRelevant .standard index types name →
      name = "N.C" ∨ name = "N.E" ∨ name = "N.C.Size" := by
    intro name h
    cases h with
    | type hmem => rcases List.mem_pair.mp hmem with rfl | rfl <;> decide
    | shown hmem _ hshown =>
        rcases List.mem_pair.mp hmem with rfl | rfl
        · cases hshown with
          | name => decide
          | member _ hlisted =>
              obtain rfl := List.mem_singleton.mp hlisted
              decide
        · cases hshown with
          | name => decide
          | member hkind _ => exact absurd hkind (by decide)
  have hagree : ∀ name, IsRelevant .standard index types name → index.AgreeOn other name := by
    intro name h
    apply Documentation.Index.agreeOn_of_get?_eq
    rcases hnames name h with rfl | rfl | rfl <;> rfl
  exact ⟨hagree, (dependsOnRelevant .standard index types).agreeing other hagree⟩

end Markdown

end ApiDocs
