import ApiDocs.Markdown.Section
import Mathlib.Data.List.Perm.Basic

namespace ApiDocs

/-! The lists of members.  Every member that is listed stands in the one category of its
sort, in the order of its declaration, whether or not it is documented. -/

namespace Metadata.ExportedType

theorem dropStart?_eq_some_iff {start text rest : List Char} :
    dropStart? start text = some rest ↔ text = start ++ rest := by
  rw [dropStart?]
  constructor
  · intro h
    split at h
    · next hstart =>
        obtain ⟨tail, rfl⟩ := List.isPrefixOf_iff_prefix.mp hstart
        simpa using h
    · cases h
  · rintro rfl
    have hstart : start.isPrefixOf (start ++ rest) = true :=
      List.isPrefixOf_iff_prefix.mpr (List.prefix_append start rest)
    simp [hstart]

theorem namesTarget_iff {starts targets : List String} {name : String} :
    namesTarget starts targets name = true ↔
      ∃ start ∈ starts, ∃ target ∈ targets, name = start ++ target := by
  rw [namesTarget, List.any_eq_true]
  constructor
  · rintro ⟨start, hstart, h⟩
    refine ⟨start, hstart, ?_⟩
    split at h
    · next rest hrest =>
        refine ⟨String.ofList rest, by simpa using h, ?_⟩
        rw [← String.toList_inj, String.toList_append, String.toList_ofList]
        exact dropStart?_eq_some_iff.mp hrest
    · cases h
  · rintro ⟨start, hstart, target, htarget, rfl⟩
    refine ⟨start, hstart, ?_⟩
    have hrest : dropStart? start.toList (start ++ target).toList = some target.toList := by
      rw [dropStart?_eq_some_iff, String.toList_append]
    rw [hrest]
    simpa using htarget

/-- A method with a special name, or with the name of a property or an event behind a start
that says how it serves it. -/
def IsAccessor (type : ExportedType) (method : Method) : Prop :=
  method.specialName = true ∨
    (∃ start ∈ ["get_", "set_"], ∃ property ∈ type.properties,
      method.name = start ++ property.name) ∨
    ∃ start ∈ ["add_", "remove_", "raise_"], ∃ event ∈ type.events,
      method.name = start ++ event.name

theorem isAccessor_iff (type : ExportedType) (method : Method) :
    type.isAccessor method = true ↔ type.IsAccessor method := by
  rw [isAccessor, IsAccessor, Bool.or_eq_true, Bool.or_eq_true, namesTarget_iff,
    namesTarget_iff, or_assoc]
  simp only [List.mem_map, exists_exists_and_eq_and]

instance decidableIsAccessor (type : ExportedType) (method : Method) :
    Decidable (type.IsAccessor method) :=
  decidable_of_iff _ (isAccessor_iff type method)

end Metadata.ExportedType

namespace Markdown

open Metadata
open Documentation (Index Entry)

namespace Category

def titles : List String := [
  "Constructors", "Methods", "Events", "Properties and Fields", "Static Methods",
  "Static Properties and Fields", "Static Events"]

def titleOf : Member → String
  | .constructor _ => "Constructors"
  | .method value => if value.isStatic then "Static Methods" else "Methods"
  | .property value =>
      if value.isStatic then "Static Properties and Fields" else "Properties and Fields"
  | .field value =>
      if value.isStatic then "Static Properties and Fields" else "Properties and Fields"
  | .event value => if value.isStatic then "Static Events" else "Events"

/-- The members of a type that are listed, each sort in the order of its declaration. -/
def listed (type : ExportedType) : List Member :=
  type.constructors.map .constructor ++
    (type.methods.filter fun method =>
      ¬ type.IsAccessor method ∧ method.name ≠ ".ctor" ∧ method.name ≠ ".cctor").map .method ++
    type.properties.map .property ++ type.fields.map .field ++ type.events.map .event

def membersUnder (type : ExportedType) (title : String) : List Member :=
  (listed type).filter fun member => titleOf member = title

def usedTitles (type : ExportedType) : List String :=
  titles.filter fun title => !(membersUnder type title).isEmpty

theorem titleOf_mem_titles (member : Member) : titleOf member ∈ titles := by
  cases member with
  | constructor value => rw [titleOf]; decide
  | method value => rw [titleOf]; split <;> decide
  | property value => rw [titleOf]; split <;> decide
  | field value => rw [titleOf]; split <;> decide
  | event value => rw [titleOf]; split <;> decide

theorem listedMethods_eq (type : ExportedType) :
    listedMethods type = type.methods.filter fun method =>
      ¬ type.IsAccessor method ∧ method.name ≠ ".ctor" ∧ method.name ≠ ".cctor" := by
  apply List.filter_congr
  intro method _
  rw [Bool.eq_iff_iff, decide_eq_true_eq, ← ExportedType.isAccessor_iff]
  simp [constructorMethods]

theorem filter_titleOf {α : Type} (wrap : α → Member) (isStatic : α → Bool)
    {ofType ofInstance : String}
    (h : ∀ value, titleOf (wrap value) = if isStatic value then ofType else ofInstance)
    (values : List α) (title : String) :
    ((values.map wrap).filter fun member => titleOf member = title) =
      (values.filter fun value =>
        if isStatic value then ofType = title else ofInstance = title).map wrap := by
  rw [List.filter_map]
  congr 1
  apply List.filter_congr
  intro value _
  cases hstatic : isStatic value <;> simp [h, hstatic]

theorem groups_eq (type : ExportedType) :
    groups type = titles.map fun title => (title, membersUnder type title) := by
  have hconstructors := fun title =>
    filter_titleOf .constructor Constructor.isStatic
      (fun _ => (ite_self "Constructors").symm) type.constructors title
  have hmethods := fun title =>
    filter_titleOf .method Method.isStatic (fun _ => rfl) (listedMethods type) title
  have hproperties := fun title =>
    filter_titleOf .property Property.isStatic (fun _ => rfl) type.properties title
  have hfields := fun title =>
    filter_titleOf .field Field.isStatic (fun _ => rfl) type.fields title
  have hevents := fun title =>
    filter_titleOf .event Event.isStatic (fun _ => rfl) type.events title
  simp only [groups, titles, List.map_cons, List.map_nil, membersUnder, listed,
    ← listedMethods_eq, List.filter_append, hconstructors, hmethods, hproperties, hfields,
    hevents]
  simp [methods, values, events]

def under (config : Config) (index : Index) (type : ExportedType) (title : String) : Category :=
  ⟨title, (membersUnder type title).map (MemberItem.build config index type)⟩

theorem ofType_eq {type : ExportedType} (hkind : type.kind.isEnum = false) (config : Config)
    (index : Index) :
    ofType config index type = (usedTitles type).map (under config index type) := by
  rw [ofType, if_neg (by simp [hkind]), groups_eq, List.filter_map, List.map_map]
  rfl

theorem flatMap_filter_perm {keys : List String} (hkeys : keys.Nodup) (members : List Member) :
    (keys.flatMap fun key => members.filter fun member => titleOf member = key).Perm
      (members.filter fun member => titleOf member ∈ keys) := by
  induction keys with
  | nil => simp
  | cons key rest ih =>
      obtain ⟨hkey, hrest⟩ := List.nodup_cons.mp hkeys
      have hfirst : (members.filter fun member => titleOf member = key) =
          (members.filter fun member => titleOf member ∈ key :: rest).filter
            fun member => titleOf member = key := by
        rw [List.filter_filter]
        apply List.filter_congr
        intro member _
        by_cases h : titleOf member = key <;> simp [h]
      have hothers : (members.filter fun member => titleOf member ∈ rest) =
          (members.filter fun member => titleOf member ∈ key :: rest).filter
            fun member => !decide (titleOf member = key) := by
        rw [List.filter_filter]
        apply List.filter_congr
        intro member _
        by_cases h : titleOf member = key
        · simp [h, hkey]
        · simp [h]
      rw [List.flatMap_cons]
      refine ((ih hrest).append_left _).trans ?_
      rw [hfirst, hothers]
      exact List.filter_append_perm _ _

theorem flatMap_usedTitles (type : ExportedType) :
    (usedTitles type).flatMap (membersUnder type) = titles.flatMap (membersUnder type) := by
  rw [usedTitles]
  induction titles with
  | nil => rfl
  | cons title rest ih =>
      cases hmembers : membersUnder type title with
      | nil =>
          rw [List.filter_cons_of_neg (by simp [hmembers]), List.flatMap_cons, hmembers, ih]
          rfl
      | cons member others =>
          rw [List.filter_cons_of_pos (by simp [hmembers]), List.flatMap_cons,
            List.flatMap_cons, ih]

theorem membersUnder_perm (type : ExportedType) :
    ((usedTitles type).flatMap (membersUnder type)).Perm (listed type) := by
  have hall : ((listed type).filter fun member => titleOf member ∈ titles) = listed type := by
    rw [List.filter_eq_self]
    intro member _
    exact decide_eq_true (titleOf_mem_titles member)
  have hperm := flatMap_filter_perm (by decide : titles.Nodup) (listed type)
  rw [hall] at hperm
  rw [flatMap_usedTitles]
  exact hperm

theorem titleOf_mem_usedTitles {type : ExportedType} {member : Member}
    (hmem : member ∈ listed type) : titleOf member ∈ usedTitles type := by
  have hunder : member ∈ membersUnder type (titleOf member) :=
    List.mem_filter.mpr ⟨hmem, decide_eq_true rfl⟩
  rw [usedTitles, List.mem_filter]
  refine ⟨titleOf_mem_titles member, ?_⟩
  cases hmembers : membersUnder type (titleOf member) with
  | nil => rw [hmembers] at hunder; cases hunder
  | cons first rest => rfl

/-- A category without the texts that documentation adds. -/
def bare (category : Category) : Category :=
  { category with items := category.items.map fun item => { item with body := "" } }

theorem bare_under (config other : Config) (index another : Index) (type : ExportedType)
    (title : String) :
    bare (under config index type title) = bare (under other another type title) := by
  simp only [bare, under, List.map_map]
  rfl

end Category

/-- What the categories of a type hold: all members that are listed, each of them once. -/
structure MemberLists (config : Config) (index : Index) (type : ExportedType)
    (categories : List Category) : Prop where
  titles : (categories.map Category.title).Sublist Category.titles
  nonempty : ∀ category ∈ categories, category.items ≠ []
  perm : (categories.flatMap Category.items).Perm
    ((Category.listed type).map (MemberItem.build config index type))
  items : ∀ category ∈ categories, category.items =
    ((Category.listed type).filter fun member =>
      Category.titleOf member = category.title).map (MemberItem.build config index type)
  unique : ∀ member ∈ Category.listed type,
    ∃! category, category ∈ categories ∧ category.title = Category.titleOf member
  accessor : ∀ method, type.isAccessor method = true ↔ type.IsAccessor method
  undocumented : ∀ otherConfig otherIndex otherEntry,
    categories.map Category.bare =
      (Section.build otherConfig otherIndex type otherEntry).categories.map Category.bare

/-- The categories of a type that is no enumeration lose no member and repeat none. -/
theorem memberLists_of_build {type : ExportedType} (hkind : type.kind.isEnum = false)
    (config : Config) (index : Index) (entry : Entry) :
    MemberLists config index type (Section.build config index type entry).categories := by
  have hcategories : ∀ config index entry,
      (Section.build config index type entry).categories =
        (Category.usedTitles type).map (Category.under config index type) :=
    fun config index _ => Category.ofType_eq hkind config index
  rw [hcategories]
  constructor
  case titles =>
    rw [List.map_map]
    have htitles : Category.title ∘ Category.under config index type = id := rfl
    rw [htitles, List.map_id]
    exact List.filter_sublist
  case nonempty =>
    intro category hmem
    obtain ⟨title, htitle, rfl⟩ := List.mem_map.mp hmem
    have hused := (List.mem_filter.mp htitle).2
    simpa [Category.under] using hused
  case perm =>
    have hitems : ((Category.usedTitles type).map (Category.under config index type)).flatMap
        Category.items =
        ((Category.usedTitles type).flatMap (Category.membersUnder type)).map
          (MemberItem.build config index type) := by
      rw [List.flatMap_map, List.map_flatMap]
      rfl
    rw [hitems]
    exact (Category.membersUnder_perm type).map _
  case items =>
    intro category hmem
    obtain ⟨title, -, rfl⟩ := List.mem_map.mp hmem
    rfl
  case unique =>
    intro member hmem
    refine ⟨Category.under config index type (Category.titleOf member), ⟨?_, rfl⟩, ?_⟩
    · exact List.mem_map_of_mem (Category.titleOf_mem_usedTitles hmem)
    · rintro category ⟨hcategory, htitle⟩
      obtain ⟨title, -, rfl⟩ := List.mem_map.mp hcategory
      obtain rfl : title = Category.titleOf member := htitle
      rfl
  case accessor => exact ExportedType.isAccessor_iff type
  case undocumented =>
    intro otherConfig otherIndex otherEntry
    rw [hcategories, List.map_map, List.map_map]
    apply List.map_congr_left
    intro title _
    exact Category.bare_under config otherConfig index otherIndex type title

/-- A static constructor, a field before a property, and methods that are not listed. -/
theorem memberLists_of_class :
    let type : ExportedType := ⟨"N.C", .classType, none, [],
      [⟨[], true⟩],
      [⟨"get_Size", none, [], false, false⟩, ⟨"Run", none, [], false, false⟩,
        ⟨".cctor", none, [], true, false⟩, ⟨"Run", none, [], true, false⟩,
        ⟨"get_Changed", none, [], true, false⟩],
      [⟨"Size", ⟨"System.Int32", []⟩, [], false⟩],
      [⟨"Tag", ⟨"System.Object", []⟩, false⟩],
      [⟨"Changed", ⟨"System.EventHandler", []⟩, true⟩]⟩
    let entry : Entry := ⟨.type, "N.C", 0, none, none, none, none, Table.empty⟩
    type.kind.isEnum = false ∧
      MemberLists .standard Table.empty type
        (Section.build .standard Table.empty type entry).categories ∧
      (Section.build .standard Table.empty type entry).categories.map
          (fun category => (category.title, category.items.map MemberItem.name)) =
        [("Constructors", ["C"]), ("Methods", ["Run"]),
          ("Properties and Fields", ["Size", "Tag"]),
          ("Static Methods", ["Run", "get_Changed"]), ("Static Events", ["Changed"])] := by
  intro type entry
  have hkind : type.kind.isEnum = false := by decide
  exact ⟨hkind, memberLists_of_build hkind .standard Table.empty entry, by decide⟩

end Markdown

end ApiDocs
