import ApiDocs.Proofs.Documentation.Lenient
import ApiDocs.Proofs.Prose.Label
import ApiDocs.Proofs.Prose.Outermost

namespace ApiDocs

/-! Descriptors in documents.  The names of members and the targets of references are told apart
as every other text is, and the work ends with what is wrong about the first one that is no
descriptor. -/

namespace Prose

/-- How the targets of references are read, each on its own and all of them in a node. -/
structure ReadsTargets (language context : String) (column : Nat) (node : Xml.Node) : Prop where
  descriptor : ∀ (see : Xml.Element) cref descriptor, see.get? "cref" = some cref →
    Descriptor.Reads cref (.ok descriptor) →
      reference context see =
        .ok (" [" ++ label see.text descriptor.name context ++ "](#" ++ descriptor.name ++ ") ")
  error : ∀ (see : Xml.Element) cref error, see.get? "cref" = some cref →
    Descriptor.Reads cref (.error error) → reference context see = .error (.descriptor error)
  message : ∀ error, (Error.descriptor error).message = error.message
  render_error_iff : ∀ error,
    render language context column node = .error (.descriptor error) ↔
      ∃ before see after cref, references node = before ++ see :: after ∧
        (∀ earlier ∈ before, ¬ IsDangling earlier) ∧
        see.get? "cref" = some cref ∧ Descriptor.Reads cref (.error error)
  render_ok : ∀ output, render language context column node = .ok output →
    ∀ see ∈ references node, ∀ cref, see.get? "cref" = some cref →
      ∃ descriptor, Descriptor.Reads cref (.ok descriptor)

theorem fault?_eq_descriptor_iff {see : Xml.Element} {error : Descriptor.Error} :
    fault? see = some (.descriptor error) ↔
      ∃ cref, see.get? "cref" = some cref ∧ Descriptor.Reads cref (.error error) := by
  simp only [← Descriptor.parse_eq_iff, fault?]
  cases hcref : see.get? "cref" with
  | some cref => cases hparse : Descriptor.parse cref <;> simp [hparse]
  | none => cases see.get? "langword" <;> simp

theorem exists_reads_of_not_isDangling {see : Xml.Element} {cref : String}
    (hcref : see.get? "cref" = some cref) (h : ¬ IsDangling see) :
    ∃ descriptor, Descriptor.Reads cref (.ok descriptor) := by
  cases hparse : Descriptor.parse cref with
  | ok descriptor => exact ⟨descriptor, Descriptor.parse_eq_iff.mp hparse⟩
  | error error => exact absurd (.inr ⟨cref, hcref, error, hparse⟩) h

theorem readsTargets (language context : String) (column : Nat) (node : Xml.Node) :
    ReadsTargets language context column node where
  descriptor see cref descriptor hcref hreads := by
    exact reference_of_cref hcref (Descriptor.parse_eq_iff.mpr hreads) context
  error see cref error hcref hreads := by
    rw [← Descriptor.parse_eq_iff] at hreads
    rw [reference, hcref]
    simp only [hreads]
  message _ := rfl
  render_error_iff error := by
    rw [render_eq_error_iff, findSome?_fault?_eq_some_iff]
    simp only [fault?_eq_descriptor_iff, exists_and_left]
  render_ok output houtput see hmem cref hcref := by
    obtain ⟨hnone, -⟩ := render_eq_ok_iff.mp houtput
    exact exists_reads_of_not_isDangling hcref (findSome?_fault?_eq_none_iff.mp hnone see hmem)

end Prose

namespace Documentation

def proseElements (member : Xml.Element) : List Xml.Element :=
  (["summary", "remarks", "returns", "example"].flatMap fun tag => (member.find? tag).toList) ++
    member.named "param"

/-- How the names of members are read, each on its own and all of them in a document, and how
the targets of their references are. -/
structure ReadsMembers (config : Config) (root : Xml.Element) : Prop where
  descriptor : ∀ (member : Xml.Element) text descriptor, member.get? "name" = some text →
    Descriptor.Reads text (.ok descriptor) →
      memberDescriptor member = .ok ⟨kindOf descriptor, descriptor.name⟩
  error : ∀ (member : Xml.Element) text error, member.get? "name" = some text →
    Descriptor.Reads text (.error error) →
      memberDescriptor member = .error (.memberName error member.position.line)
  message : ∀ error line,
    (Error.memberName error line).message = error.message ++ " (line " ++ toString line ++ ")"
  build_error_iff : ∀ error line,
    (Index.build config root).result = .error (.memberName error line) ↔
      root.tag = "doc" ∧ ∃ before member after text,
        membersOf root = before ++ member :: after ∧
        (∀ earlier ∈ before, fatal? config earlier = none) ∧
        member.get? "name" = some text ∧ Descriptor.Reads text (.error error) ∧
        member.position.line = line
  build_ok : ∀ index, (Index.build config root).result = .ok index →
    ∀ member ∈ membersOf root, ∃ text descriptor,
      member.get? "name" = some text ∧ Descriptor.Reads text (.ok descriptor)
  build_reference_error : ∀ error,
    (Index.build config root).result = .error (.prose (.descriptor error)) →
      ∃ member ∈ membersOf root, ∃ element ∈ proseElements member,
        ∃ see ∈ Prose.references element.toNode, ∃ cref,
          see.get? "cref" = some cref ∧ Descriptor.Reads cref (.error error)
  entry_reference : ∀ member entry, entryOf? config member = some entry →
    ∀ element ∈ proseElements member, ∀ see ∈ Prose.references element.toNode,
      ∀ cref, see.get? "cref" = some cref → ∃ descriptor, Descriptor.Reads cref (.ok descriptor)

theorem memberDescriptor_eq_memberName_iff {member : Xml.Element} {error : Descriptor.Error}
    {line : Nat} :
    memberDescriptor member = .error (.memberName error line) ↔
      ∃ text, member.get? "name" = some text ∧ Descriptor.Reads text (.error error) ∧
        member.position.line = line := by
  simp only [← Descriptor.parse_eq_iff, memberDescriptor]
  cases hname : member.get? "name" with
  | none => simp
  | some text => cases hparse : Descriptor.parse text <;> simp [hparse]

theorem exists_reads_of_memberDescriptor {member : Xml.Element} {descriptor : Descriptor}
    (h : memberDescriptor member = .ok descriptor) :
    ∃ text read, member.get? "name" = some text ∧ Descriptor.Reads text (.ok read) := by
  rw [memberDescriptor] at h
  cases hname : member.get? "name" with
  | none => simp [hname] at h
  | some text =>
      cases hparse : Descriptor.parse text with
      | error error => simp [hname, hparse] at h
      | ok read => exact ⟨text, read, rfl, Descriptor.parse_eq_iff.mp hparse⟩

theorem fatal?_eq_memberName_iff {config : Config} {member : Xml.Element}
    {error : Descriptor.Error} {line : Nat} :
    fatal? config member = some (.memberName error line) ↔
      memberDescriptor member = .error (.memberName error line) := by
  rw [fatal?]
  cases hname : memberDescriptor member with
  | error cause => simp
  | ok descriptor =>
      cases hread : Entry.read config.codeLanguage descriptor member with
      | ok entry => simp [hread]
      | error cause =>
          rcases Entry.read_error hread with ⟨prose, rfl⟩ | ⟨other, rfl⟩
          · simp [hread]
          · simp [hread]

theorem memberDescriptor_of_fatal?_eq_none {config : Config} {member : Xml.Element}
    (h : fatal? config member = none) : ∃ descriptor, memberDescriptor member = .ok descriptor := by
  rw [fatal?] at h
  cases hname : memberDescriptor member with
  | error error => simp [hname] at h
  | ok descriptor => exact ⟨descriptor, rfl⟩

/-! Prose of members. -/

/-- Work that renders elements: it has a result only if all of them can be rendered, and what is
wrong with prose is wrong with one of them. -/
structure Renders {α : Type} (language context : String) (column : Nat)
    (elements : List Xml.Element) (result : Except Error α) : Prop where
  ok : ∀ value, result = .ok value → ∀ element ∈ elements,
    ∃ output, Prose.render language context column element.toNode = .ok output
  error : ∀ cause, result = .error (.prose cause) → ∃ element ∈ elements,
    Prose.render language context column element.toNode = .error cause

namespace Renders

variable {α β : Type} {language context : String} {column : Nat}
variable {elements others : List Xml.Element}

theorem of_ok (value : α) : Renders language context column [] (.ok value) where
  ok _ _ _ hmem := absurd hmem List.not_mem_nil
  error _ h := by cases h

theorem of_error {error : Error} (h : ∀ cause, error ≠ .prose cause) :
    Renders language context column elements (.error error : Except Error α) where
  ok _ hok := by cases hok
  error cause herror := absurd (Except.error.inj herror) (h cause)

theorem map {result : Except Error α} (f : α → β)
    (h : Renders language context column elements result) :
    Renders language context column elements (result.map f) := by
  cases result with
  | error error =>
      constructor
      · intro value hok
        cases hok
      · intro cause herror
        cases herror
        exact h.error cause rfl
  | ok value =>
      constructor
      · intro _ _
        exact h.ok value rfl
      · intro cause herror
        cases herror

theorem bind {first : Except Error α} {next : α → Except Error β}
    (hfirst : Renders language context column elements first)
    (hnext : ∀ value, Renders language context column others (next value)) :
    Renders language context column (elements ++ others) (first >>= next) where
  ok value h element hmem := by
    obtain ⟨intermediate, hok, hrest⟩ := Outcome.except_bind_eq_ok_iff.mp h
    rcases List.mem_append.mp hmem with hmem | hmem
    · exact hfirst.ok intermediate hok element hmem
    · exact (hnext intermediate).ok value hrest element hmem
  error cause h := by
    rcases Outcome.except_bind_eq_error_iff.mp h with herror | ⟨intermediate, -, herror⟩
    · obtain ⟨element, hmem, hrender⟩ := hfirst.error cause herror
      exact ⟨element, List.mem_append_left others hmem, hrender⟩
    · obtain ⟨element, hmem, hrender⟩ := (hnext intermediate).error cause herror
      exact ⟨element, List.mem_append_right elements hmem, hrender⟩

theorem of_proseOf (element : Xml.Element) :
    Renders language context column [element]
      (proseOf language context column element) where
  ok output h other hmem := by
    rw [List.mem_singleton.mp hmem]
    exact ⟨output, Outcome.except_mapError_eq_ok_iff.mp h⟩
  error cause h := by
    obtain ⟨other, hrender, hcause⟩ := Outcome.except_mapError_eq_error_iff.mp h
    cases hcause
    exact ⟨element, List.mem_singleton_self element, hrender⟩

theorem of_sectionOf (member : Xml.Element) (tag : String) :
    Renders language context member.position.column (member.find? tag).toList
      (sectionOf language context member tag) := by
  rw [sectionOf]
  cases member.find? tag with
  | none => exact of_ok none
  | some element => exact (of_proseOf element).map some

theorem of_parametersOf (table : Table String) (params : List Xml.Element) :
    Renders language context column params
      (parametersOf language context column table params) := by
  induction params generalizing table with
  | nil => exact of_ok table
  | cons param rest ih =>
      rw [parametersOf]
      cases param.get? "name" with
      | none => exact of_error (by simp)
      | some name => exact (of_proseOf param).bind fun output => ih (table.insert name output)

theorem of_read (language : String) (descriptor : Descriptor) (member : Xml.Element) :
    Renders language descriptor.name member.position.column (proseElements member)
      (Entry.read language descriptor member) := by
  have hparts : proseElements member =
      (member.find? "summary").toList ++ ((member.find? "remarks").toList ++
        ((member.find? "returns").toList ++ ((member.find? "example").toList ++
          (member.named "param" ++ [])))) := by
    simp [proseElements]
  rw [hparts]
  refine (of_sectionOf member "summary").bind fun summary? => ?_
  refine (of_sectionOf member "remarks").bind fun remarks? => ?_
  refine (of_sectionOf member "returns").bind fun returns? => ?_
  refine (of_sectionOf member "example").bind fun example? => ?_
  exact (of_parametersOf Table.empty _).bind fun parameters => of_ok _

end Renders

theorem exists_read_of_fatal?_eq_prose {config : Config} {member : Xml.Element}
    {cause : Prose.Error} (h : fatal? config member = some (.prose cause)) :
    ∃ descriptor, Entry.read config.codeLanguage descriptor member = .error (.prose cause) := by
  rw [fatal?] at h
  cases hname : memberDescriptor member with
  | error error =>
      simp only [hname, Option.some.injEq] at h
      subst h
      rw [memberDescriptor] at hname
      cases htext : member.get? "name" with
      | none => simp [htext] at hname
      | some text => cases hparse : Descriptor.parse text <;> simp [htext, hparse] at hname
  | ok descriptor =>
      cases hread : Entry.read config.codeLanguage descriptor member with
      | ok entry => simp [hname, hread] at h
      | error error =>
          refine ⟨descriptor, ?_⟩
          simp only [hname, hread] at h
          split at h
          · cases h
          · rw [hread, Option.some.inj h]

theorem Index.build_eq_error_iff {config : Config} {root : Xml.Element} {error : Error}
    (hroot : ∀ tag, error ≠ .wrongRoot tag) (hlist : error ≠ .noMembers) :
    (build config root).result = .error error ↔
      root.tag = "doc" ∧ (membersOf root).findSome? (fatal? config) = some error := by
  by_cases htag : root.tag = "doc"
  · cases hmembers : root.find? "members" with
    | none =>
        rw [build_of_find?_eq_none htag hmembers, membersOf, hmembers]
        simpa using Ne.symm hlist
    | some list =>
        have hdocument : IsDocument root (membersOf root) := ⟨htag, by rw [hmembers]; rfl, rfl⟩
        rw [build_result hdocument]
        cases (membersOf root).findSome? (fatal? config) <;> simp [htag]
  · rw [build_of_tag_ne htag]
    simpa [htag] using Ne.symm (hroot root.tag)

theorem readsMembers (config : Config) (root : Xml.Element) : ReadsMembers config root where
  descriptor member text descriptor hname hreads := by
    rw [← Descriptor.parse_eq_iff] at hreads
    rw [memberDescriptor, hname]
    simp only [hreads]
  error member text error hname hreads := by
    rw [memberDescriptor_eq_memberName_iff]
    exact ⟨text, hname, hreads, rfl⟩
  message _ _ := rfl
  build_error_iff error line := by
    rw [Index.build_eq_error_iff (by simp) (by simp), List.findSome?_eq_some_iff]
    simp only [fatal?_eq_memberName_iff, memberDescriptor_eq_memberName_iff, exists_and_left]
    constructor
    · rintro ⟨htag, before, member, after, hmembers, ⟨text, hname⟩, hbefore⟩
      exact ⟨htag, before, member, after, hmembers, hbefore, text, hname⟩
    · rintro ⟨htag, before, member, after, hmembers, hbefore, text, hname⟩
      exact ⟨htag, before, member, after, hmembers, ⟨text, hname⟩, hbefore⟩
  build_ok index hindex member hmem := by
    have hadded := Index.addMembers_of_build hindex
    rw [Index.addMembers_result] at hadded
    cases hended : (membersOf root).findSome? (fatal? config) with
    | some error =>
        rw [hended] at hadded
        cases hadded
    | none =>
        have hmember := List.findSome?_eq_none_iff.mp hended member hmem
        obtain ⟨descriptor, hdescriptor⟩ := memberDescriptor_of_fatal?_eq_none hmember
        exact exists_reads_of_memberDescriptor hdescriptor
  build_reference_error error h := by
    obtain ⟨-, hended⟩ := (Index.build_eq_error_iff (by simp) (by simp)).mp h
    obtain ⟨member, hmember, hfatal⟩ := List.exists_of_findSome?_eq_some hended
    obtain ⟨descriptor, hread⟩ := exists_read_of_fatal?_eq_prose hfatal
    obtain ⟨element, helement, hrender⟩ :=
      (Renders.of_read config.codeLanguage descriptor member).error _ hread
    obtain ⟨before, see, after, cref, hreferences, -, hcref, hreads⟩ :=
      ((Prose.readsTargets _ _ _ _).render_error_iff error).mp hrender
    exact ⟨member, hmember, element, helement, see, by simp [hreferences], cref, hcref, hreads⟩
  entry_reference member entry hentry element helement see hsee cref hcref := by
    have hreadable : (entryOf? config member).isSome = true := by rw [hentry]; rfl
    obtain ⟨descriptor, read, -, hread, -⟩ := exists_of_entryOf?_isSome hreadable
    obtain ⟨output, hrender⟩ :=
      (Renders.of_read config.codeLanguage descriptor member).ok read hread element helement
    exact (Prose.readsTargets _ _ _ _).render_ok output hrender see hsee cref hcref

/-- Every text is told apart in the same way on its own, as the name of a member and as the
target of a reference. -/
theorem tellsApart (config : Config) (root : Xml.Element) (language context : String)
    (column : Nat) (node : Xml.Node) :
    (∀ text result, Descriptor.parse text = result ↔ Descriptor.Reads text result) ∧
      ReadsMembers config root ∧ Prose.ReadsTargets language context column node :=
  ⟨fun _ _ => Descriptor.parse_eq_iff, readsMembers config root,
    Prose.readsTargets language context column node⟩

end Documentation

end ApiDocs
