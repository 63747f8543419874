import ApiDocs.Proofs.Documentation.Index

namespace ApiDocs.Documentation

/-! The index of a document by its members.  That of two lists of members, one after the
other, merges the indexes of both. -/

structure IsDocument (root : Xml.Element) (members : List Xml.Element) : Prop where
  tag : root.tag = "doc"
  hasList : (root.find? "members").isSome = true
  members_eq : membersOf root = members

def documentOf (members : List Xml.Element) : Xml.Element :=
  ⟨"doc", [], .first, [.element "members" [] .first (members.map Xml.Element.toNode)]⟩

theorem named_of_tag {tag : String} {elements : List Xml.Element}
    (h : ∀ element ∈ elements, element.tag = tag) (name : String) (position : Xml.Position) :
    Xml.Element.named ⟨name, [], position, elements.map Xml.Element.toNode⟩ tag = elements := by
  have helements : (elements.map Xml.Element.toNode).filterMap Xml.Node.element? = elements := by
    rw [List.filterMap_map]
    exact List.filterMap_some
  rw [Xml.Element.named, Xml.Element.elements, helements, List.filter_eq_self]
  intro element hmem
  simpa using h element hmem

theorem isDocument_documentOf {members : List Xml.Element}
    (h : ∀ member ∈ members, member.tag = "member") :
    IsDocument (documentOf members) members where
  tag := rfl
  hasList := rfl
  members_eq := named_of_tag h "members" .first

namespace Index

theorem build_result {root : Xml.Element} {members : List Xml.Element}
    (h : IsDocument root members) (config : Config) :
    (build config root).result =
      match members.findSome? (fatal? config) with
      | some error => .error error
      | none => .ok (Table.empty.insertAll (entriesOf config members)) := by
  obtain ⟨htag, hlist, rfl⟩ := h
  obtain ⟨list, hlist⟩ := Option.isSome_iff_exists.mp hlist
  have hresult := addMembers_result config Table.empty (membersOf root)
  have hmembers : membersOf root = list.named "member" := by rw [membersOf, hlist]
  rw [build, if_neg (not_not_intro htag), hlist]
  simp only [ofMembers, Outcome.bind, ← hmembers]
  split
  · next index hindex => exact hindex.symm.trans hresult
  · next error herror => exact herror.symm.trans hresult

theorem get?_build {root : Xml.Element} {members : List Xml.Element} {config : Config}
    {index : Index} (hroot : IsDocument root members)
    (h : (build config root).result = .ok index) (name : String) :
    index.get? name =
      (members.filterMap (entryOf? config)).reverse.find? fun entry => entry.name = name := by
  rw [get?_addMembers (addMembers_of_build h), hroot.members_eq]
  exact Option.or_none

theorem build_eq_ok_iff {root : Xml.Element} {members : List Xml.Element}
    (h : IsDocument root members) (config : Config) (index : Index) :
    (build config root).result = .ok index ↔
      members.findSome? (fatal? config) = none ∧
        index = Table.empty.insertAll (entriesOf config members) := by
  rw [build_result h]
  cases members.findSome? (fatal? config) with
  | some error => simp
  | none => simp [eq_comm]

end Index

/-- What ties the index of a document to the indexes of two documents that have the first
and the last of its members. -/
structure Appends (config : Config) (first last whole : Xml.Element)
    (members : List Xml.Element) : Prop where
  error_iff : ∀ error, (Index.build config whole).result = .error error ↔
    (Index.build config first).result = .error error ∨
      ∃ index, (Index.build config first).result = .ok index ∧
        (Index.build config last).result = .error error
  merged : ∀ firstIndex lastIndex, (Index.build config first).result = .ok firstIndex →
    (Index.build config last).result = .ok lastIndex →
    ∃ index, (Index.build config whole).result = .ok index ∧
      Table.RightBiased firstIndex lastIndex index
  keys : ∀ index, (Index.build config whole).result = .ok index →
    index.keys = ((members.filterMap (entryOf? config)).map Entry.name).eraseDups
  get? : ∀ index, (Index.build config whole).result = .ok index → ∀ name,
    index.get? name =
      (members.filterMap (entryOf? config)).reverse.find? fun entry => entry.name = name

/-- The index of members in a row merges the indexes of its first and its last members. -/
theorem build_append {first last whole : Xml.Element} {left right : List Xml.Element}
    (hfirst : IsDocument first left) (hlast : IsDocument last right)
    (hwhole : IsDocument whole (left ++ right)) (config : Config) :
    Appends config first last whole (left ++ right) where
  error_iff := by
    intro error
    rw [Index.build_result hwhole, Index.build_result hfirst, Index.build_result hlast,
      List.findSome?_append]
    cases left.findSome? (fatal? config) with
    | some cause => simp
    | none => cases right.findSome? (fatal? config) <;> simp
  merged := by
    intro firstIndex lastIndex hfirstIndex hlastIndex
    obtain ⟨hleft, rfl⟩ := (Index.build_eq_ok_iff hfirst config firstIndex).mp hfirstIndex
    obtain ⟨hright, rfl⟩ := (Index.build_eq_ok_iff hlast config lastIndex).mp hlastIndex
    refine ⟨Table.empty.insertAll (entriesOf config (left ++ right)), ?_, ?_⟩
    · rw [Index.build_eq_ok_iff hwhole, List.findSome?_append, hleft, hright]
      exact ⟨rfl, rfl⟩
    · rw [entriesOf_append]
      exact Table.rightBiased_insertAll_append _ _
  keys := by
    intro index hindex
    obtain ⟨-, rfl⟩ := (Index.build_eq_ok_iff hwhole config index).mp hindex
    rw [Table.keys_insertAll, entriesOf, List.map_map]
    rfl
  get? := by
    intro index hindex name
    exact Index.get?_build hwhole hindex name

/-- A name that comes three times, last in a member that is left out. -/
theorem build_append_of_skipped :
    let config : Config := { Config.standard with strict := false }
    let left : List Xml.Element := [
      ⟨"member", [("name", "T:N.B")], ⟨3, 4⟩, [.element "summary" [] ⟨3, 27⟩ [.text "One."]]⟩,
      ⟨"member", [("name", "T:N.A")], ⟨4, 4⟩, []⟩]
    let right : List Xml.Element := [
      ⟨"member", [("name", "T:N.C")], ⟨5, 4⟩, []⟩,
      ⟨"member", [("name", "T:N.B")], ⟨6, 4⟩, [.element "summary" [] ⟨6, 27⟩ [.text "Two."]]⟩,
      ⟨"member", [("name", "T:N.B")], ⟨7, 4⟩,
        [.element "summary" [] ⟨7, 27⟩ [.element "see" [] ⟨7, 36⟩ []]]⟩]
    Appends config (documentOf left) (documentOf right) (documentOf (left ++ right))
        (left ++ right) ∧
      (Index.build config (documentOf (left ++ right))).result.toOption.map
          (fun index => (index.keys, (index.get? "N.B").bind Entry.summary?)) =
        some (["N.B", "N.A", "N.C"], some "Two.") := by
  intro config left right
  refine ⟨build_append (isDocument_documentOf ?_) (isDocument_documentOf ?_)
    (isDocument_documentOf ?_) config, ?_⟩
  · decide
  · decide
  · decide
  · decide +kernel

end ApiDocs.Documentation
