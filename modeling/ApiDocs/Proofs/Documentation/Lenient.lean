import ApiDocs.Proofs.Documentation.Building

namespace ApiDocs

/-! Lenient indexes.  What a member with a malformed reference says is left out, as if the
member were not in the document; every other fault ends the work. -/

namespace Xml.Element

def mapFirst (tag : String) (change : Element → Element) (element : Element) : Element :=
  { element with children := inNodes element.children }
where
  inNodes : List Node → List Node
    | [] => []
    | node :: rest =>
        match node.element? with
        | none => node :: inNodes rest
        | some child =>
            if child.tag = tag then (change child).toNode :: rest else node :: inNodes rest

/-- Removes the children with a tag for which `isUnwanted` holds. -/
def without (tag : String) (isUnwanted : Element → Bool) (element : Element) : Element :=
  { element with
    children := element.children.filter fun node =>
      !node.element?.any fun child => child.tag = tag && isUnwanted child }

theorem find?_mapFirst (element : Element) {tag : String} {change : Element → Element}
    (h : ∀ child, (change child).tag = child.tag) :
    (element.mapFirst tag change).find? tag = (element.find? tag).map change := by
  obtain ⟨name, attributes, position, children⟩ := element
  rw [mapFirst, find?, find?, elements, elements]
  induction children with
  | nil => rfl
  | cons node rest ih =>
      rw [mapFirst.inNodes]
      cases hnode : node.element? with
      | none => simpa [hnode] using ih
      | some child =>
          by_cases htag : child.tag = tag
          · simp [hnode, htag, h]
          · simpa [hnode, htag] using ih

theorem named_without (element : Element) (tag : String) (isUnwanted : Element → Bool) :
    (element.without tag isUnwanted).named tag =
      (element.named tag).filter fun child => !isUnwanted child := by
  obtain ⟨name, attributes, position, children⟩ := element
  rw [without, named, named, elements, elements]
  induction children with
  | nil => rfl
  | cons node rest ih =>
      cases hnode : node.element? with
      | none => simpa [hnode] using ih
      | some child =>
          by_cases htag : child.tag = tag
          · cases hunwanted : isUnwanted child <;> simpa [hnode, htag, hunwanted] using ih
          · simpa [hnode, htag] using ih

end Xml.Element

namespace Documentation

/-- Whether a member has a name, but a reference in it is malformed. -/
def isLeftOut (config : Config) (member : Xml.Element) : Bool :=
  match memberDescriptor member with
  | .error _ => false
  | .ok descriptor =>
      match Entry.read config.codeLanguage descriptor member with
      | .ok _ => false
      | .error error => error.isMalformed

/-- The document without the members that a lenient index leaves out. -/
def withoutMalformed (config : Config) (root : Xml.Element) : Xml.Element :=
  root.mapFirst "members" (·.without "member" (isLeftOut config))

theorem find?_withoutMalformed (config : Config) (root : Xml.Element) :
    (withoutMalformed config root).find? "members" =
      (root.find? "members").map (·.without "member" (isLeftOut config)) :=
  Xml.Element.find?_mapFirst root fun _ => rfl

theorem entryOf?_eq_none_of_isLeftOut {config : Config} {member : Xml.Element}
    (h : isLeftOut config member = true) : entryOf? config member = none := by
  rw [isLeftOut] at h
  cases hname : memberDescriptor member with
  | error error => simp [hname] at h
  | ok descriptor =>
      cases hread : Entry.read config.codeLanguage descriptor member with
      | ok entry => simp [hname, hread] at h
      | error error => exact entryOf?_eq_none hname hread

theorem fatal?_of_lenient {config : Config} (hlenient : config.strict = false)
    (member : Xml.Element) :
    fatal? config member =
      if isLeftOut config member then none else fatal? { config with strict := true } member := by
  rw [fatal?, fatal?, isLeftOut]
  cases hname : memberDescriptor member with
  | error error => simp
  | ok descriptor =>
      cases hread : Entry.read config.codeLanguage descriptor member with
      | ok entry => simp [hread]
      | error error => cases hmalformed : error.isMalformed <;> simp [hread, hmalformed, hlenient]

/-- Every member of a document before the given one can be read or is left out. -/
def Reaches (config : Config) (root member : Xml.Element) : Prop :=
  ∃ before after, IsDocument root (before ++ member :: after) ∧
    ∀ earlier ∈ before,
      isLeftOut config earlier = true ∨ (entryOf? config earlier).isSome = true

theorem fatal?_eq_none_of_lenient {config : Config} (hlenient : config.strict = false)
    {member : Xml.Element}
    (h : isLeftOut config member = true ∨ (entryOf? config member).isSome = true) :
    fatal? config member = none := by
  rcases h with hleft | hread
  · rw [fatal?_of_lenient hlenient, if_pos hleft]
  · obtain ⟨descriptor, entry, hname, hentry, -⟩ := exists_of_entryOf?_isSome hread
    simp [fatal?, hname, hentry]

theorem findSome?_fatal?_of_lenient {config : Config} (hlenient : config.strict = false)
    (members : List Xml.Element) :
    members.findSome? (fatal? config) =
      (members.filter fun member => !isLeftOut config member).findSome?
        (fatal? { config with strict := true }) := by
  induction members with
  | nil => rfl
  | cons member rest ih =>
      rw [List.findSome?_cons, fatal?_of_lenient hlenient, ih]
      cases hleft : isLeftOut config member with
      | true => rw [List.filter_cons_of_neg (by simp [hleft])]; rfl
      | false => rw [List.filter_cons_of_pos (by simp [hleft]), List.findSome?_cons]; rfl

theorem entriesOf_filter_isLeftOut (config : Config) (members : List Xml.Element) :
    entriesOf config (members.filter fun member => !isLeftOut config member) =
      entriesOf config members := by
  rw [entriesOf, entriesOf, List.filterMap_filter]
  congr 2
  funext member
  cases hleft : isLeftOut config member with
  | true => simp [entryOf?_eq_none_of_isLeftOut hleft]
  | false => rfl

theorem IsDocument.withoutMalformed {root : Xml.Element} {members : List Xml.Element}
    (h : IsDocument root members) (config : Config) :
    IsDocument (withoutMalformed config root)
      (members.filter fun member => !isLeftOut config member) := by
  obtain ⟨htag, hlist, rfl⟩ := h
  obtain ⟨list, hlist⟩ := Option.isSome_iff_exists.mp hlist
  have hwithout := find?_withoutMalformed config root
  rw [hlist, Option.map_some] at hwithout
  refine ⟨htag, Option.isSome_of_eq_some hwithout, ?_⟩
  rw [membersOf, membersOf, hwithout, hlist]
  exact Xml.Element.named_without list "member" (isLeftOut config)

namespace Index

theorem build_of_tag_ne {root : Xml.Element} (h : root.tag ≠ "doc") (config : Config) :
    (build config root).result = .error (.wrongRoot root.tag) := by
  rw [build, if_pos h]
  rfl

theorem build_of_find?_eq_none {root : Xml.Element} (htag : root.tag = "doc")
    (hmembers : root.find? "members" = none) (config : Config) :
    (build config root).result = .error .noMembers := by
  rw [build, if_neg (not_not_intro htag), hmembers]
  rfl

theorem build_of_lenient {config : Config} (hlenient : config.strict = false)
    (root : Xml.Element) :
    (build config root).result =
      (build { config with strict := true } (withoutMalformed config root)).result := by
  by_cases htag : root.tag = "doc"
  · cases hmembers : root.find? "members" with
    | none =>
        have hwithout : (withoutMalformed config root).find? "members" = none := by
          rw [find?_withoutMalformed, hmembers, Option.map_none]
        have htagWithout : (withoutMalformed config root).tag = "doc" := htag
        rw [build_of_find?_eq_none htag hmembers, build_of_find?_eq_none htagWithout hwithout]
    | some list =>
        have hroot : IsDocument root (membersOf root) :=
          ⟨htag, Option.isSome_of_eq_some hmembers, rfl⟩
        have hentries := entriesOf_filter_isLeftOut config (membersOf root)
        rw [build_result hroot, build_result (hroot.withoutMalformed config),
          findSome?_fatal?_of_lenient hlenient, ← hentries]
        rfl
  · have hwithout : (withoutMalformed config root).tag ≠ "doc" := htag
    rw [build_of_tag_ne htag, build_of_tag_ne hwithout]
    rfl

theorem build_of_fatal? {config : Config} (hlenient : config.strict = false)
    {root member : Xml.Element} {error : Error} (hreaches : Reaches config root member)
    (hfatal : fatal? config member = some error) :
    (build config root).result = .error error := by
  obtain ⟨before, after, hroot, hbefore⟩ := hreaches
  have hnone : before.findSome? (fatal? config) = none := by
    rw [List.findSome?_eq_none_iff]
    intro earlier hmem
    exact fatal?_eq_none_of_lenient hlenient (hbefore earlier hmem)
  rw [build_result hroot, List.findSome?_append, hnone, List.findSome?_cons, hfatal]
  rfl

end Index

theorem parametersOf_of_nameless {language context : String} {column : Nat}
    (table : Table String) {params : List Xml.Element}
    (hprose : ∀ param ∈ params, ∃ text, proseOf language context column param = .ok text)
    (hnameless : ∃ param ∈ params, param.get? "name" = none) :
    ∃ param ∈ params, param.get? "name" = none ∧
      parametersOf language context column table params =
        .error (.unnamedParameter context param.position.line) := by
  induction params generalizing table with
  | nil => simp at hnameless
  | cons param rest ih =>
      rw [parametersOf]
      cases hname : param.get? "name" with
      | none => exact ⟨param, List.mem_cons_self, hname, rfl⟩
      | some name =>
          rw [List.forall_mem_cons] at hprose
          obtain ⟨⟨text, htext⟩, hrest⟩ := hprose
          have hlater : ∃ later ∈ rest, later.get? "name" = none := by
            simpa [hname] using hnameless
          obtain ⟨later, hmem, hlaterName, herror⟩ :=
            ih (table.insert name text) hrest hlater
          refine ⟨later, List.mem_cons_of_mem param hmem, hlaterName, ?_⟩
          rw [htext]
          exact herror

theorem Entry.read_of_nameless {language : String} {descriptor : Descriptor}
    {member : Xml.Element}
    (hsections : ∀ tag ∈ ["summary", "remarks", "returns", "example"],
      ∃ text?, sectionOf language descriptor.name member tag = .ok text?)
    (hparams : ∀ param ∈ member.named "param",
      ∃ text, proseOf language descriptor.name member.position.column param = .ok text)
    (hnameless : ∃ param ∈ member.named "param", param.get? "name" = none) :
    ∃ param ∈ member.named "param", param.get? "name" = none ∧
      Entry.read language descriptor member =
        .error (.unnamedParameter descriptor.name param.position.line) := by
  simp only [List.forall_mem_cons, List.not_mem_nil, false_implies, implies_true, and_true]
    at hsections
  obtain ⟨⟨_, hsummary⟩, ⟨_, hremarks⟩, ⟨_, hreturns⟩, _, hexample⟩ := hsections
  obtain ⟨param, hmem, hname, herror⟩ :=
    parametersOf_of_nameless Table.empty hparams hnameless
  refine ⟨param, hmem, hname, ?_⟩
  rw [Entry.read]
  simp only [hsummary, hremarks, hreturns, hexample, herror]
  rfl

structure LeavesOut (config : Config) (root : Xml.Element) : Prop where
  result : (Index.build config root).result =
    (Index.build { config with strict := true } (withoutMalformed config root)).result
  wrongRoot : root.tag ≠ "doc" →
    (Index.build config root).result = .error (.wrongRoot root.tag)
  noMembers : root.tag = "doc" → root.find? "members" = none →
    (Index.build config root).result = .error .noMembers
  badName : ∀ member error, Reaches config root member →
    memberDescriptor member = .error error →
    (Index.build config root).result = .error error
  /-- A reference of an unknown kind is not malformed. -/
  unreadable : ∀ member descriptor error, Reaches config root member →
    memberDescriptor member = .ok descriptor →
    Entry.read config.codeLanguage descriptor member = .error error →
    error.isMalformed = false →
    (Index.build config root).result = .error error
  nameless : ∀ member descriptor, Reaches config root member →
    memberDescriptor member = .ok descriptor →
    (∀ tag ∈ ["summary", "remarks", "returns", "example"],
      ∃ text?, sectionOf config.codeLanguage descriptor.name member tag = .ok text?) →
    (∀ param ∈ member.named "param", ∃ text,
      proseOf config.codeLanguage descriptor.name member.position.column param = .ok text) →
    (∃ param ∈ member.named "param", param.get? "name" = none) →
    ∃ param ∈ member.named "param", param.get? "name" = none ∧
      (Index.build config root).result =
        .error (.unnamedParameter descriptor.name param.position.line)
  survives : ∀ before member after entry index,
    IsDocument root (before ++ member :: after) →
    entryOf? config member = some entry →
    (∀ later ∈ after, isNamed entry.name later = true → isLeftOut config later = true) →
    (Index.build config root).result = .ok index →
    index.get? entry.name = some entry

theorem isNamed_of_entryOf? {config : Config} {member : Xml.Element} {entry : Entry}
    (h : entryOf? config member = some entry) : isNamed entry.name member = true := by
  rw [← Index.isNamed_eq_of_entryOf? entry.name (Option.isSome_of_eq_some h), h]
  exact decide_eq_true rfl

/-- A lenient index is the strict index of the document without the members that have a
malformed reference. -/
theorem leavesOut_of_lenient {config : Config} (hlenient : config.strict = false)
    (root : Xml.Element) : LeavesOut config root where
  result := Index.build_of_lenient hlenient root
  wrongRoot := fun htag => Index.build_of_tag_ne htag config
  noMembers := fun htag hmembers => Index.build_of_find?_eq_none htag hmembers config
  badName := by
    intro member error hreaches hname
    apply Index.build_of_fatal? hlenient hreaches
    rw [fatal?, hname]
  unreadable := by
    intro member descriptor error hreaches hname hread hmalformed
    apply Index.build_of_fatal? hlenient hreaches
    simp [fatal?, hname, hread, hmalformed]
  nameless := by
    intro member descriptor hreaches hname hsections hparams hnameless
    obtain ⟨param, hmem, hparam, hread⟩ :=
      Entry.read_of_nameless hsections hparams hnameless
    refine ⟨param, hmem, hparam, ?_⟩
    apply Index.build_of_fatal? hlenient hreaches
    simp [fatal?, hname, hread, Error.isMalformed]
  survives := by
    intro before member after entry index hroot hentry hlater hindex
    have hafter : ((after.filterMap (entryOf? config)).reverse.find?
        fun other => other.name = entry.name) = none := by
      rw [List.find?_eq_none]
      intro other hmem
      obtain ⟨later, hmem, hread⟩ := List.mem_filterMap.mp (List.mem_reverse.mp hmem)
      have hname := isNamed_of_entryOf? hread
      rw [decide_eq_true_eq]
      intro heq
      have hleft := hlater later hmem (heq ▸ hname)
      rw [entryOf?_eq_none_of_isLeftOut hleft] at hread
      cases hread
    rw [Index.get?_build hroot hindex, List.filterMap_append, List.filterMap_cons_some hentry,
      List.reverse_append, List.reverse_cons, List.find?_append, List.find?_append, hafter]
    simp

/-- A member that is left out, behind one with the same name. -/
theorem leavesOut_of_missing_target :
    let config : Config := { Config.standard with strict := false }
    let root := documentOf [
      ⟨"member", [("name", "T:N.A")], ⟨3, 4⟩, [.element "summary" [] ⟨3, 27⟩ [.text "One."]]⟩,
      ⟨"member", [("name", "T:N.A")], ⟨4, 4⟩,
        [.element "summary" [] ⟨4, 27⟩ [.element "see" [] ⟨4, 36⟩ []]]⟩,
      ⟨"member", [("name", "T:N.B")], ⟨5, 4⟩, []⟩]
    config.strict = false ∧ LeavesOut config root ∧
      (Index.build config root).result.toOption.map
          (fun index => (index.keys, (index.get? "N.A").bind Entry.summary?)) =
        some (["N.A", "N.B"], some "One.") := by
  intro config root
  have hlenient : config.strict = false := rfl
  exact ⟨hlenient, leavesOut_of_lenient hlenient root, by decide +kernel⟩

end Documentation

end ApiDocs
