import ApiDocs.Markdown.Section
import ApiDocs.Proofs.Descriptor
import ApiDocs.Proofs.Documentation.Index
import ApiDocs.Proofs.Metadata.MemberId

namespace ApiDocs.Markdown

/-! The identifiers of members, which are made from metadata, are the names under which
documentation files enter the documentation of these members. -/

open Metadata
open Documentation

/-- What ties a member of a type to the documentation file that an index is built from. -/
structure IdentifierParity (config rendering : Config) (root : Xml.Element) (index : Index)
    (type : ExportedType) (member : Member) : Prop where
  parsed : ∀ letter kind, (letter, kind) ∈ MemberKind.letters →
    Descriptor.parse (letter ++ ":" ++ type.memberId member) =
      .ok ⟨kind, type.memberId member⟩
  anchor : (MemberItem.build rendering index type member).anchor = type.memberId member
  documented : ∀ element,
    lastNamed? (type.memberId member) (membersOf root) = some element →
    ∃ descriptor entry, memberDescriptor element = .ok descriptor ∧
      Entry.read config.codeLanguage descriptor element = .ok entry ∧
      (MemberItem.build rendering index type member).body =
        MemberItem.bodyOf rendering entry member.parameters
  undocumented : lastNamed? (type.memberId member) (membersOf root) = none →
    (MemberItem.build rendering index type member).body = ""
  /-- The documentation of a method is that of a constructor by the name of the method. -/
  kind : ∀ element, element.get? "name" = some ("M:" ++ type.memberId member) →
    ∃ descriptor, memberDescriptor element = .ok descriptor ∧
      (descriptor.kind = .constructor ↔ Name.last member.name ∈ constructorNames) ∧
      (lastNamed? (type.memberId member) (membersOf root) = some element →
        ∃ entry, index.get? (type.memberId member) = some entry ∧
          entry.kind = descriptor.kind)
  constructorName : ∀ value, member = .constructor value →
    Name.last member.name ∈ constructorNames
  methodName : ∀ value, member = .method value → '#' ∉ value.name.toList →
    Name.last member.name ∉ constructorNames
  parenthesis : '(' ∈ (type.memberId member).toList ↔ member.parameters ≠ []

theorem memberDescriptor_method {element : Xml.Element} {name : String}
    (hattribute : element.get? "name" = some ("M:" ++ name)) (hcolon : ':' ∉ name.toList)
    (hne : name ≠ "") :
    memberDescriptor element = .ok ⟨kindOf ⟨.method, name⟩, name⟩ := by
  have hparse : Descriptor.parse ("M" ++ ":" ++ name) = .ok ⟨.method, name⟩ :=
    Descriptor.parse_letter (by decide) hcolon hne
  have hletter : "M" ++ ":" = "M:" := rfl
  rw [hletter] at hparse
  rw [memberDescriptor, hattribute]
  simp [hparse]

theorem kindOf_method_eq_constructor_iff (name : String) :
    kindOf ⟨.method, name⟩ = .constructor ↔
      Name.last (Name.stripParameters name) ∈ constructorNames := by
  by_cases h : Name.last (Name.stripParameters name) ∈ constructorNames <;> simp [kindOf, h]

theorem last_not_mem_constructorNames {name : String} (h : '#' ∉ name.toList) :
    Name.last name ∉ constructorNames := by
  intro hmem
  have hhash : '#' ∈ (Name.last name).toList := by
    simp only [constructorNames, List.mem_cons, List.not_mem_nil, or_false] at hmem
    rcases hmem with heq | heq <;> rw [heq] <;> decide
  exact h (Name.mem_of_mem_last hhash)

theorem last_constructor (value : Constructor) :
    Name.last (Member.constructor value).name ∈ constructorNames := by
  rw [Member.name]
  cases value.isStatic <;> decide

theorem build_body_of_get? {rendering : Config} {index : Index} {type : ExportedType}
    {member : Member} {entry : Entry}
    (h : index.get? (type.memberId member) = some entry) :
    (MemberItem.build rendering index type member).body =
      MemberItem.bodyOf rendering entry member.parameters := by
  simp [MemberItem.build, h]

theorem build_body_of_get?_eq_none {rendering : Config} {index : Index}
    {type : ExportedType} {member : Member}
    (h : index.get? (type.memberId member) = none) :
    (MemberItem.build rendering index type member).body = "" := by
  simp [MemberItem.build, h]

/-- A strict index holds the documentation of a member under its identifier, that of the
last member of the file with this name. -/
theorem identifierParity_of_strict {config : Config} (rendering : Config) {root : Xml.Element}
    {index : Index} (hstrict : config.strict = true)
    (hbuilt : (Index.build config root).result = .ok index)
    {type : ExportedType} {member : Member}
    (typeColon : ':' ∉ type.docName.toList) (nameColon : ':' ∉ member.name.toList)
    (typesColon : ∀ parameter ∈ member.parameters, parameter.type.Avoids ':')
    (typeParenthesis : '(' ∉ type.docName.toList)
    (nameParenthesis : '(' ∉ member.name.toList) :
    IdentifierParity config rendering root index type member where
  parsed := by
    intro letter kind hmem
    exact Descriptor.parse_letter hmem
      (ExportedType.colon_not_mem_memberId typeColon nameColon typesColon)
      (ExportedType.memberId_ne_empty type member)
  anchor := rfl
  documented := by
    intro element hlast
    obtain ⟨descriptor, entry, hname, hread, hentry⟩ :=
      Index.get?_of_lastNamed? hstrict hbuilt hlast
    exact ⟨descriptor, entry, hname, hread, build_body_of_get? hentry⟩
  undocumented := by
    intro hlast
    apply build_body_of_get?_eq_none
    rw [Index.get?_build_of_strict hstrict hbuilt, hlast, Option.bind_none]
  kind := by
    intro element hattribute
    have hdescriptor := memberDescriptor_method hattribute
      (ExportedType.colon_not_mem_memberId typeColon nameColon typesColon)
      (ExportedType.memberId_ne_empty type member)
    refine ⟨_, hdescriptor, ?_, ?_⟩
    · rw [kindOf_method_eq_constructor_iff,
        ExportedType.last_memberId typeParenthesis nameParenthesis]
    · intro hlast
      obtain ⟨descriptor, entry, hname, hread, hentry⟩ :=
        Index.get?_of_lastNamed? hstrict hbuilt hlast
      obtain rfl := Except.ok.inj (hdescriptor.symm.trans hname)
      exact ⟨entry, hentry, (Entry.read_ok hread).1⟩
  constructorName := by
    rintro value rfl
    exact last_constructor value
  methodName := by
    rintro value rfl hhash
    exact last_not_mem_constructorNames hhash
  parenthesis :=
    ExportedType.parenthesis_mem_memberId_iff typeParenthesis nameParenthesis

/-- A method with a parameter by reference that the file documents twice. -/
theorem identifierParity_of_duplicate :
    let root : Xml.Element := ⟨"doc", [], ⟨1, 0⟩, [.element "members" [] ⟨2, 2⟩ [
      .element "member" [("name", "M:N.Outer.C.Run(System.Int32@)")] ⟨3, 4⟩
        [.element "summary" [] ⟨3, 50⟩ [.text "Runs once."]],
      .element "member" [("name", "M:N.Outer.C.Run(System.Int32@)")] ⟨4, 4⟩
        [.element "summary" [] ⟨4, 50⟩ [.text "Runs."]]]]⟩
    ∃ index, (Index.build .standard root).result = .ok index ∧
      IdentifierParity .standard .standard root index
        ⟨"N.Outer+C", .classType, none, [], [], [], [], [], []⟩
        (.method ⟨"Run", none, [⟨"count", ⟨"System.Int32&", []⟩, false, .null⟩],
          false, false⟩) := by
  intro root
  have hsome : (Index.build .standard root).result.toOption.isSome = true := by
    decide +kernel
  cases hbuilt : (Index.build .standard root).result with
  | error error => simp [hbuilt, Except.toOption] at hsome
  | ok index =>
      refine ⟨index, rfl, identifierParity_of_strict .standard rfl hbuilt (by decide)
        (by decide) ?_ (by decide) (by decide)⟩
      simp only [Member.parameters, List.forall_mem_singleton, TypeRef.Avoids,
        TypeRef.AvoidsAll, and_true]
      decide

end ApiDocs.Markdown
