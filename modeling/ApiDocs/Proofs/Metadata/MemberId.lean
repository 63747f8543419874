import ApiDocs.Metadata.ExportedType
import ApiDocs.Proofs.Metadata.CanonicalName

namespace ApiDocs.Metadata

/-! Identifiers of members can be taken apart again: into the name of the type, the
name of the member and the types of its parameters. -/

namespace Parameter

theorem toList_listForIdentifier (parameters : List Parameter) :
    (listForIdentifier parameters).toList =
      '(' :: (TypeRef.canonicalList (parameters.map type) ++ [')']) := by
  have hopen : "(".toList = ['('] := rfl
  have hcomma : ",".toList = [','] := rfl
  have hclose : ")".toList = [')'] := rfl
  rw [listForIdentifier, String.toList_append, String.toList_append,
    String.toList_intercalate, hopen, hcomma, hclose, TypeRef.canonicalList_eq_intercalate]
  simp [TypeRef.canonicalName, Function.comp_def]

theorem plainAll_types {parameters : List Parameter}
    (plain : ∀ parameter ∈ parameters, parameter.type.Plain) :
    TypeRef.PlainAll (parameters.map type) := by
  rw [TypeRef.plainAll_iff]
  intro ref hmem
  obtain ⟨parameter, hparameter, rfl⟩ := List.mem_map.mp hmem
  exact plain parameter hparameter

theorem listForIdentifier_eq_iff {left right : List Parameter}
    (plainLeft : ∀ parameter ∈ left, parameter.type.Plain)
    (plainRight : ∀ parameter ∈ right, parameter.type.Plain) :
    listForIdentifier left = listForIdentifier right ↔
      List.Forall₂ TypeRef.Equivalent (left.map type) (right.map type) := by
  rw [← String.toList_inj, toList_listForIdentifier, toList_listForIdentifier,
    List.cons_inj_right, List.append_left_inj,
    TypeRef.canonicalList_eq_iff (plainAll_types plainLeft) (plainAll_types plainRight),
    TypeRef.equivalentAll_iff_forall₂]

end Parameter

namespace ExportedType

def parameterPart (parameters : List Parameter) : String :=
  if parameters.isEmpty then "" else Parameter.listForIdentifier parameters

theorem memberId_eq_append (type : ExportedType) (member : Member) :
    type.memberId member =
      type.docName ++ "." ++ member.name ++ parameterPart member.parameters := by
  rw [memberId, parameterPart]
  split
  · rw [String.append_empty]
  · rfl

theorem parameterPart_nil : parameterPart [] = "" := rfl

theorem parameterPart_cons (parameter : Parameter) (rest : List Parameter) :
    ∃ chars, parameterPart (parameter :: rest) = String.ofList ('(' :: chars) := by
  refine ⟨TypeRef.canonicalList ((parameter :: rest).map Parameter.type) ++ [')'], ?_⟩
  rw [← String.toList_inj, String.toList_ofList, ← Parameter.toList_listForIdentifier]
  rfl

theorem parameterPart_eq_iff {left right : List Parameter}
    (plainLeft : ∀ parameter ∈ left, parameter.type.Plain)
    (plainRight : ∀ parameter ∈ right, parameter.type.Plain) :
    parameterPart left = parameterPart right ↔
      List.Forall₂ TypeRef.Equivalent (left.map Parameter.type)
        (right.map Parameter.type) := by
  cases left with
  | nil =>
      cases right with
      | nil => simp
      | cons parameter rest =>
          obtain ⟨chars, hpart⟩ := parameterPart_cons parameter rest
          simp [parameterPart_nil, hpart, ← String.toList_inj]
  | cons parameter rest =>
      cases right with
      | nil =>
          obtain ⟨chars, hpart⟩ := parameterPart_cons parameter rest
          simp [parameterPart_nil, hpart, ← String.toList_inj]
      | cons other others =>
          exact Parameter.listForIdentifier_eq_iff plainLeft plainRight

theorem stripParameters_memberId {type : ExportedType} {member : Member}
    (htype : '(' ∉ type.docName.toList) (hmember : '(' ∉ member.name.toList) :
    Name.stripParameters (type.memberId member) = type.docName ++ "." ++ member.name := by
  have hplain : '(' ∉ (type.docName ++ "." ++ member.name).toList := by
    simp [htype, hmember]
  rw [memberId_eq_append]
  cases member.parameters with
  | nil =>
      rw [parameterPart_nil, String.append_empty, Name.stripParameters_of_not_mem hplain]
  | cons parameter rest =>
      obtain ⟨chars, hpart⟩ := parameterPart_cons parameter rest
      rw [hpart, Name.stripParameters_append chars hplain]

theorem last_memberId {type : ExportedType} {member : Member}
    (htype : '(' ∉ type.docName.toList) (hmember : '(' ∉ member.name.toList) :
    Name.last (Name.stripParameters (type.memberId member)) = Name.last member.name := by
  rw [stripParameters_memberId htype hmember, Name.last_append_dot]

theorem parenthesis_mem_memberId_iff {type : ExportedType} {member : Member}
    (htype : '(' ∉ type.docName.toList) (hmember : '(' ∉ member.name.toList) :
    '(' ∈ (type.memberId member).toList ↔ member.parameters ≠ [] := by
  have hplain : '(' ∉ (type.docName ++ "." ++ member.name).toList := by
    simp [htype, hmember]
  rw [memberId_eq_append, String.toList_append]
  cases member.parameters with
  | nil => simpa [parameterPart_nil] using hplain
  | cons parameter rest =>
      obtain ⟨chars, hpart⟩ := parameterPart_cons parameter rest
      simp [hpart]

theorem colon_not_mem_memberId {type : ExportedType} {member : Member}
    (htype : ':' ∉ type.docName.toList) (hmember : ':' ∉ member.name.toList)
    (htypes : ∀ parameter ∈ member.parameters, parameter.type.Avoids ':') :
    ':' ∉ (type.memberId member).toList := by
  have hpart : ':' ∉ (parameterPart member.parameters).toList := by
    rw [parameterPart]
    split
    · simp
    · have avoids : TypeRef.AvoidsAll ':' (member.parameters.map Parameter.type) := by
        rw [TypeRef.avoidsAll_iff]
        simpa using htypes
      have hlist := TypeRef.not_mem_canonicalList (by decide) avoids
      simp [Parameter.toList_listForIdentifier, hlist]
  rw [memberId_eq_append]
  simp [htype, hmember, hpart]

theorem memberId_ne_empty (type : ExportedType) (member : Member) :
    type.memberId member ≠ "" := by
  rw [memberId_eq_append]
  simp [String.append_eq_empty_iff]

/-- An identifier is taken apart at its first parenthesis and at the last dot before it. -/
theorem memberId_eq_iff_parts {type other : ExportedType} {member another : Member}
    (htype : '(' ∉ type.docName.toList) (hother : '(' ∉ other.docName.toList)
    (hmember : '(' ∉ member.name.toList) (hanother : '(' ∉ another.name.toList)
    (undotted : '.' ∉ member.name.toList) (otherUndotted : '.' ∉ another.name.toList) :
    type.memberId member = other.memberId another ↔
      type.docName = other.docName ∧ member.name = another.name ∧
        parameterPart member.parameters = parameterPart another.parameters := by
  constructor
  · intro heq
    have hname : member.name = another.name := by
      rw [← Name.last_of_not_mem undotted, ← last_memberId htype hmember, heq,
        last_memberId hother hanother, Name.last_of_not_mem otherUndotted]
    have hstripped := congrArg Name.stripParameters heq
    rw [stripParameters_memberId htype hmember, stripParameters_memberId hother hanother]
      at hstripped
    have hdocName : type.docName = other.docName := by
      rw [hname] at hstripped
      exact (String.append_left_inj ".").mp ((String.append_left_inj another.name).mp hstripped)
    rw [memberId_eq_append, memberId_eq_append, hstripped] at heq
    exact ⟨hdocName, hname, (String.append_right_inj _).mp heq⟩
  · rintro ⟨hdocName, hname, hpart⟩
    rw [memberId_eq_append, memberId_eq_append, hdocName, hname, hpart]

/-- Parameter lists with plain types read alike in identifiers exactly if their types
are equivalent one by one, and identifiers of members are the same exactly if the types,
the names and the parameter lists of the members are. -/
theorem identifier_eq_iff {left right : List Parameter}
    (plainLeft : ∀ parameter ∈ left, parameter.type.Plain)
    (plainRight : ∀ parameter ∈ right, parameter.type.Plain) :
    (Parameter.listForIdentifier left = Parameter.listForIdentifier right ↔
      List.Forall₂ TypeRef.Equivalent (left.map Parameter.type)
        (right.map Parameter.type)) ∧
    ∀ (type other : ExportedType) (member another : Member),
      member.parameters = left → another.parameters = right →
      '(' ∉ type.docName.toList → '(' ∉ other.docName.toList →
      '(' ∉ member.name.toList → '(' ∉ another.name.toList →
      '.' ∉ member.name.toList → '.' ∉ another.name.toList →
      (type.memberId member = other.memberId another ↔
        type.docName = other.docName ∧ member.name = another.name ∧
          List.Forall₂ TypeRef.Equivalent (left.map Parameter.type)
            (right.map Parameter.type)) := by
  refine ⟨Parameter.listForIdentifier_eq_iff plainLeft plainRight, ?_⟩
  intro type other member another hleft hright htype hother hmember hanother undotted
    otherUndotted
  rw [memberId_eq_iff_parts htype hother hmember hanother undotted otherUndotted, hleft,
    hright, parameterPart_eq_iff plainLeft plainRight]

/-- The comma of a suffix stands before the comma of a list here, and the arity and the
nesting of types are written in two ways. -/
theorem identifier_eq_of_spellings :
    Parameter.listForIdentifier
        [⟨"map", ⟨"N.Map\x602&", [⟨"A[,", []⟩, ⟨"N.Outer+Inner", []⟩]⟩, false, .null⟩] =
      Parameter.listForIdentifier
        [⟨"table", ⟨"N.Map\x60&", [⟨"A[,", []⟩, ⟨"N.Outer.Inner", []⟩]⟩, true, .null⟩] ∧
    memberId ⟨"N+C", .classType, none, [], [], [], [], [], []⟩
        (.constructor ⟨[⟨"map", ⟨"N.Map\x602&", [⟨"A[,", []⟩, ⟨"N.Outer+Inner", []⟩]⟩,
          false, .null⟩], false⟩) =
      memberId ⟨"N.C", .struct, none, [], [], [], [], [], []⟩
        (.method ⟨"#ctor", none, [⟨"table", ⟨"N.Map\x60&", [⟨"A[,", []⟩,
          ⟨"N.Outer.Inner", []⟩]⟩, true, .null⟩], true, false⟩) := by
  have plainMap : ∀ parameter ∈ ([⟨"map", ⟨"N.Map\x602&", [⟨"A[,", []⟩,
      ⟨"N.Outer+Inner", []⟩]⟩, false, .null⟩] : List Parameter), parameter.type.Plain := by
    simp only [List.forall_mem_singleton, TypeRef.Plain, TypeRef.PlainAll, and_true]
    decide
  have plainTable : ∀ parameter ∈ ([⟨"table", ⟨"N.Map\x60&", [⟨"A[,", []⟩,
      ⟨"N.Outer.Inner", []⟩]⟩, true, .null⟩] : List Parameter), parameter.type.Plain := by
    simp only [List.forall_mem_singleton, TypeRef.Plain, TypeRef.PlainAll, and_true]
    decide
  have equivalent : List.Forall₂ TypeRef.Equivalent
      [⟨"N.Map\x602&", [⟨"A[,", []⟩, ⟨"N.Outer+Inner", []⟩]⟩]
      [⟨"N.Map\x60&", [⟨"A[,", []⟩, ⟨"N.Outer.Inner", []⟩]⟩] := by
    refine .cons ?_ .nil
    simp only [TypeRef.Equivalent, TypeRef.EquivalentAll]
    decide
  obtain ⟨lists, members⟩ := identifier_eq_iff plainMap plainTable
  exact ⟨lists.mpr equivalent, (members _ _ _ _ rfl rfl (by decide) (by decide) (by decide)
    (by decide) (by decide) (by decide)).mpr ⟨by decide, by decide, equivalent⟩⟩

end ExportedType

end ApiDocs.Metadata
