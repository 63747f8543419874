import ApiDocs.Proofs.Metadata.Role

namespace ApiDocs.Metadata

/-! Names of what a document describes.  Types, members and parameters always have one.  A
reference has none exactly where the empty text stands for it. -/

/-- The references that are read of a value in a role, at any depth. -/
inductive Holds : Role → Value → Value → Prop where
  | self (reference : Value) : Holds .reference reference reference
  | one {role part : Role} {absence : Absence} {entries : Entries} {key : String}
      {value reference : Value} (hpart : (key, .one absence part) ∈ role.parts)
      (hget : Value.get? entries key = some value) (hthere : absence.covers value = false)
      (h : Holds part value reference) : Holds role (.map entries) reference
  | item {role part : Role} {entries : Entries} {key : String} {item reference : Value}
      (hpart : (key, .many part) ∈ role.parts) (hitem : item ∈ itemsAt entries key)
      (h : Holds part item reference) : Holds role (.map entries) reference

def HoldsAt (entries : Entries) (key : String) (reference : Value) : Part → Prop
  | .one absence role => ∃ value, Value.get? entries key = some value ∧
      absence.covers value = false ∧ Holds role value reference
  | .many role => ∃ item ∈ itemsAt entries key, Holds role item reference

theorem holds_text_iff {role : Role} {name other : String} :
    Holds role (.text name) (.text other) ↔ role = .reference ∧ name = other := by
  constructor
  · intro h
    cases h
    exact ⟨rfl, rfl⟩
  · rintro ⟨rfl, rfl⟩
    exact .self _

theorem holds_map_iff {role : Role} {entries : Entries} {name : String} :
    Holds role (.map entries) (.text name) ↔
      ∃ part ∈ role.parts, HoldsAt entries part.1 (.text name) part.2 := by
  constructor
  · intro h
    cases h with
    | one hpart hget hthere h => exact ⟨_, hpart, _, hget, hthere, h⟩
    | item hpart hitem h => exact ⟨_, hpart, _, hitem, h⟩
  · rintro ⟨⟨key, part⟩, hpart, h⟩
    cases part with
    | one absence role =>
        obtain ⟨value, hget, hthere, h⟩ := h
        exact .one hpart hget hthere h
    | many role =>
        obtain ⟨item, hitem, h⟩ := h
        exact .item hpart hitem h

namespace TypeRef

mutual

def names : TypeRef → List String
  | ⟨name, arguments⟩ => name :: namesAll arguments

def namesAll : List TypeRef → List String
  | [] => []
  | ref :: rest => names ref ++ namesAll rest

end

end TypeRef

/-- References of which one has no name, or an argument that has none. -/
def Nameless (refs : List TypeRef) : Prop :=
  ∃ ref ∈ refs, "" ∈ ref.names

theorem TypeRef.empty_mem_namesAll_iff {refs : List TypeRef} :
    "" ∈ namesAll refs ↔ Nameless refs := by
  induction refs with
  | nil => simp [namesAll, Nameless]
  | cons ref rest ih => simp [namesAll, Nameless, ih]

theorem requireText_ne_empty {entries : Entries} {key value : String}
    (h : requireText entries key = .ok value) : value ≠ "" := by
  unfold requireText at h
  split at h
  · split at h
    · cases h
    · next hne =>
        cases h
        simpa using hne
  · cases h

/-! Lists that are read item by item. -/

section Lists

variable {α β : Type} {related : α → β → Prop} {items : List α} {values : List β}

theorem exists_left_of_forall₂ (h : List.Forall₂ related items values) {value : β}
    (hmem : value ∈ values) : ∃ item ∈ items, related item value := by
  induction h with
  | nil => cases hmem
  | cons hrelated _ ih =>
      rcases List.mem_cons.mp hmem with rfl | hmem
      · exact ⟨_, List.mem_cons_self, hrelated⟩
      · obtain ⟨item, hitem, hrelated⟩ := ih hmem
        exact ⟨item, List.mem_cons_of_mem _ hitem, hrelated⟩

theorem exists_mem_iff_of_forall₂ {p : α → Prop} {q : β → Prop}
    (h : List.Forall₂ related items values)
    (hiff : ∀ {item value}, related item value → (q value ↔ p item)) :
    (∃ value ∈ values, q value) ↔ ∃ item ∈ items, p item := by
  induction h with
  | nil => simp
  | cons hrelated _ ih => simp [hiff hrelated, ih]

end Lists

/-! References. -/

theorem holds_reference_map_iff {entries : Entries} {name : String} :
    Holds .reference (.map entries) (.text name) ↔
      ∃ item ∈ itemsAt entries "arguments", Holds .reference item (.text name) := by
  simp [holds_map_iff, Role.parts, HoldsAt]

theorem readRefs_itemsAt {entries : Entries} {arguments : List TypeRef}
    (h : readArguments entries = some (.ok arguments)) :
    readRefs (itemsAt entries "arguments") = .ok arguments := by
  rw [readArguments_eq] at h
  unfold argumentsAt at h
  unfold itemsAt
  split at h
  · next hget =>
      rw [hget]
      exact Option.some.inj h
  · next items hget =>
      rw [hget]
      exact Option.some.inj h
  · cases h
  · cases h

theorem name_and_arguments_of_readRef_map {entries : Entries} {ref : TypeRef}
    (h : readRef (.map entries) = .ok ref) :
    ref.name ≠ "" ∧ List.Forall₂ (fun item argument => readRef item = .ok argument)
      (itemsAt entries "arguments") ref.arguments := by
  rw [readRef] at h
  split at h
  · cases h
  · next result harguments =>
      cases hname : requireText entries "name" with
      | error error => simp [hname] at h
      | ok name =>
          cases result with
          | error error => simp [hname, Except.map] at h
          | ok arguments =>
              rw [hname] at h
              cases h
              have hrefs := readRefs_itemsAt harguments
              rw [readRefs_eq_mapM] at hrefs
              exact ⟨requireText_ne_empty hname, forall₂_of_mapM_eq_ok hrefs⟩

mutual

theorem empty_mem_names_iff : (ref : TypeRef) → {value : Value} → readRef value = .ok ref →
    ("" ∈ ref.names ↔ Holds .reference value (.text ""))
  | ⟨name, arguments⟩, .text _, h => by
      cases h
      simp [TypeRef.names, TypeRef.namesAll, holds_text_iff, eq_comm]
  | ⟨name, arguments⟩, .map entries, h => by
      obtain ⟨hname, hread⟩ := name_and_arguments_of_readRef_map h
      rw [TypeRef.names, List.mem_cons, TypeRef.empty_mem_namesAll_iff,
        nameless_iff arguments hread, holds_reference_map_iff]
      simp [hname.symm]

theorem nameless_iff : (refs : List TypeRef) → {items : List Value} →
    List.Forall₂ (fun item ref => readRef item = .ok ref) items refs →
    (Nameless refs ↔ ∃ item ∈ items, Holds .reference item (.text ""))
  | [], _, .nil => by simp [Nameless]
  | ref :: rest, _, .cons hread hrest => by
      have hfirst := empty_mem_names_iff ref hread
      have hothers := nameless_iff rest hrest
      rw [Nameless] at hothers ⊢
      simp only [List.mem_cons, exists_eq_or_imp, hfirst, hothers]

end

theorem requireRef_nameless_iff {entries : Entries} {key : String} {ref : TypeRef}
    (h : requireRef entries key = .ok ref) :
    "" ∈ ref.names ↔ HoldsAt entries key (.text "") (.one .never .reference) := by
  unfold requireRef at h
  split at h
  · next value hget => simp [HoldsAt, hget, Absence.covers, empty_mem_names_iff ref h]
  · cases h

theorem readReturns_nameless_iff {entries : Entries} {returns? : Option TypeRef}
    (h : readReturns entries = .ok returns?) :
    Nameless returns?.toList ↔ HoldsAt entries "returns" (.text "") (.one .falsy .reference) := by
  unfold readReturns at h
  split at h
  · next value hget =>
      cases htruthy : value.isTruthy with
      | false =>
          rw [htruthy] at h
          cases h
          simp [Nameless, HoldsAt, hget, Absence.covers, htruthy]
      | true =>
          rw [htruthy, if_pos rfl] at h
          cases hread : readRef value with
          | error error => simp [hread, Except.map] at h
          | ok ref =>
              rw [hread] at h
              cases h
              simp [Nameless, HoldsAt, hget, Absence.covers, htruthy,
                empty_mem_names_iff ref hread]
  · next hget =>
      cases h
      simp [Nameless, HoldsAt, hget]

theorem readBase_nameless_iff {entries : Entries} {base? : Option TypeRef}
    (h : readBase entries = .ok base?) :
    Nameless base?.toList ↔ HoldsAt entries "base" (.text "") (.one .null .reference) := by
  unfold readBase at h
  split at h
  · next hget =>
      cases h
      simp [Nameless, HoldsAt, hget]
  · next hget =>
      cases h
      simp [Nameless, HoldsAt, hget, Absence.covers]
  · next value hnull hget =>
      have hthere : Absence.null.covers value = false := by
        cases value with
        | null => exact absurd rfl hnull
        | _ => rfl
      cases hread : readRef value with
      | error error => simp [hread, Except.map] at h
      | ok ref =>
          rw [hread] at h
          cases h
          simp [Nameless, HoldsAt, hget, hthere, empty_mem_names_iff ref hread]

/-! Parameters and members. -/

theorem parameter_of_readParameter {value : Value} {parameter : Parameter}
    (h : readParameter value = .ok parameter) :
    parameter.name ≠ "" ∧
      ("" ∈ parameter.type.names ↔ Holds .parameter value (.text "")) := by
  simp only [readParameter, Outcome.except_bind_eq_ok_iff] at h
  obtain ⟨entries, hmap, name, hname, type, htype, heq⟩ := h
  cases heq
  cases value with
  | map fields =>
      cases hmap
      refine ⟨requireText_ne_empty hname, ?_⟩
      simp [holds_map_iff, Role.parts, requireRef_nameless_iff htype]
  | _ => cases hmap

theorem forall₂_of_readParameters {entries : Entries} {parameters : List Parameter}
    (h : readParameters entries = .ok parameters) :
    List.Forall₂ (fun item parameter => readParameter item = .ok parameter)
      (itemsAt entries "parameters") parameters := by
  unfold readParameters at h
  unfold itemsAt
  split at h
  · next hget =>
      rw [hget]
      cases h
      exact .nil
  · next items hget =>
      rw [hget]
      exact forall₂_of_mapM_eq_ok h
  · cases h

theorem parameters_of_readParameters {entries : Entries} {parameters : List Parameter}
    (h : readParameters entries = .ok parameters) :
    (∀ parameter ∈ parameters, parameter.name ≠ "") ∧
      (Nameless (parameters.map Parameter.type) ↔
        HoldsAt entries "parameters" (.text "") (.many .parameter)) := by
  have hread := forall₂_of_readParameters h
  constructor
  · intro parameter hmem
    obtain ⟨item, -, hitem⟩ := exists_left_of_forall₂ hread hmem
    exact (parameter_of_readParameter hitem).1
  · simp only [Nameless, List.mem_map, exists_exists_and_eq_and, HoldsAt]
    exact exists_mem_iff_of_forall₂ hread fun hitem => (parameter_of_readParameter hitem).2

namespace Member

def references : Member → List TypeRef
  | constructor value => value.parameters.map Parameter.type
  | method value => value.returns?.toList ++ value.parameters.map Parameter.type
  | property value => value.type :: value.parameters.map Parameter.type
  | field value => [value.type]
  | event value => [value.type]

/-- A member that has a name, as its parameters have, and lacks one in a reference just where
the entries that it is read of do. -/
structure NamedBy (role : Role) (entries : Entries) (member : Member) : Prop where
  name : member.name ≠ ""
  parameters : ∀ parameter ∈ member.parameters, parameter.name ≠ ""
  references : Nameless member.references ↔ Holds role (.map entries) (.text "")

end Member

theorem Nameless.append_iff {first second : List TypeRef} :
    Nameless (first ++ second) ↔ Nameless first ∨ Nameless second := by
  simp [Nameless, or_and_right, exists_or]

theorem Nameless.cons_iff {ref : TypeRef} {rest : List TypeRef} :
    Nameless (ref :: rest) ↔ "" ∈ ref.names ∨ Nameless rest := by
  simp [Nameless]

variable {entries : Entries}

theorem namedBy_of_readConstructor {value : Constructor} (h : readConstructor entries = .ok value) :
    Member.NamedBy .constructor entries (.constructor value) := by
  simp only [readConstructor, Outcome.except_bind_eq_ok_iff] at h
  obtain ⟨parameters, hparameters, heq⟩ := h
  cases heq
  obtain ⟨hnames, hiff⟩ := parameters_of_readParameters hparameters
  refine ⟨?_, hnames, ?_⟩
  · rw [Member.name]
    split <;> decide
  · simp [Member.references, holds_map_iff, Role.parts, hiff]

theorem namedBy_of_readMethod {value : Method} (h : readMethod entries = .ok value) :
    Member.NamedBy .method entries (.method value) := by
  simp only [readMethod, Outcome.except_bind_eq_ok_iff] at h
  obtain ⟨name, hname, returns?, hreturns, parameters, hparameters, heq⟩ := h
  cases heq
  obtain ⟨hnames, hiff⟩ := parameters_of_readParameters hparameters
  refine ⟨requireText_ne_empty hname, hnames, ?_⟩
  simp [Member.references, Nameless.append_iff, holds_map_iff, Role.parts, hiff,
    readReturns_nameless_iff hreturns]

theorem namedBy_of_readProperty {value : Property} (h : readProperty entries = .ok value) :
    Member.NamedBy .property entries (.property value) := by
  simp only [readProperty, Outcome.except_bind_eq_ok_iff] at h
  obtain ⟨name, hname, type, htype, parameters, hparameters, heq⟩ := h
  cases heq
  obtain ⟨hnames, hiff⟩ := parameters_of_readParameters hparameters
  refine ⟨requireText_ne_empty hname, hnames, ?_⟩
  simp [Member.references, Nameless.cons_iff, holds_map_iff, Role.parts, hiff,
    requireRef_nameless_iff htype]

theorem namedBy_of_readField {value : Field} (h : readField entries = .ok value) :
    Member.NamedBy .field entries (.field value) := by
  simp only [readField, Outcome.except_bind_eq_ok_iff] at h
  obtain ⟨name, hname, type, htype, heq⟩ := h
  cases heq
  refine ⟨requireText_ne_empty hname, fun _ hmem => absurd hmem List.not_mem_nil, ?_⟩
  simp [Member.references, Nameless, holds_map_iff, Role.parts, requireRef_nameless_iff htype]

theorem namedBy_of_readEvent {value : Event} (h : readEvent entries = .ok value) :
    Member.NamedBy .event entries (.event value) := by
  simp only [readEvent, Outcome.except_bind_eq_ok_iff] at h
  obtain ⟨name, hname, type, htype, heq⟩ := h
  cases heq
  refine ⟨requireText_ne_empty hname, fun _ hmem => absurd hmem List.not_mem_nil, ?_⟩
  simp [Member.references, Nameless, holds_map_iff, Role.parts, requireRef_nameless_iff htype]

/-! Types and documents. -/

namespace ExportedType

def members (type : ExportedType) : List Member :=
  type.constructors.map .constructor ++ type.methods.map .method ++
    type.properties.map .property ++ type.fields.map .field ++ type.events.map .event

/-- The references that a type and its members consist of. -/
def references (type : ExportedType) : List TypeRef :=
  type.base?.toList ++ type.members.flatMap Member.references

/-- A type that has a name, as all its members and their parameters have. -/
structure NamesSymbols (type : ExportedType) : Prop where
  name : type.fullName ≠ ""
  members : ∀ member ∈ type.members, member.name ≠ ""
  parameters : ∀ member ∈ type.members, ∀ parameter ∈ member.parameters, parameter.name ≠ ""

end ExportedType

theorem Nameless.flatMap_iff {members : List Member} :
    Nameless (members.flatMap Member.references) ↔
      ∃ member ∈ members, Nameless member.references := by
  simp only [Nameless, List.mem_flatMap]
  constructor
  · rintro ⟨ref, ⟨member, hmember, href⟩, hempty⟩
    exact ⟨member, hmember, ref, href, hempty⟩
  · rintro ⟨member, hmember, ref, href, hempty⟩
    exact ⟨ref, ⟨member, hmember, href⟩, hempty⟩

theorem namedBy_of_readInOrder {α : Type} {read : Entries → Except Error α} {role : Role}
    {wrap : α → Member}
    (hread : ∀ {entries value}, read entries = .ok value → Member.NamedBy role entries (wrap value))
    {items : List Value} {values : List α} (h : ReadInOrder read items values) :
    List.Forall₂ (fun item member => ∃ entries, item = .map entries ∧
      Member.NamedBy role entries member) items (values.map wrap) := by
  rw [List.forall₂_map_right_iff]
  apply h.imp
  rintro item value ⟨entries, rfl, hvalue⟩
  exact ⟨entries, rfl, hread hvalue⟩

theorem names_of_namedBy {role : Role} {items : List Value} {members : List Member}
    (h : List.Forall₂ (fun item member => ∃ entries, item = .map entries ∧
      Member.NamedBy role entries member) items members) :
    ∀ member ∈ members,
      member.name ≠ "" ∧ ∀ parameter ∈ member.parameters, parameter.name ≠ "" := by
  intro member hmem
  obtain ⟨item, -, entries, -, hnamed⟩ := exists_left_of_forall₂ h hmem
  exact ⟨hnamed.name, hnamed.parameters⟩

theorem nameless_of_namedBy {role : Role} {key : String} {members : List Member}
    (h : List.Forall₂ (fun item member => ∃ entries, item = .map entries ∧
      Member.NamedBy role entries member) (itemsAt entries key) members) :
    Nameless (members.flatMap Member.references) ↔
      HoldsAt entries key (.text "") (.many role) := by
  rw [Nameless.flatMap_iff, HoldsAt]
  apply exists_mem_iff_of_forall₂ h
  rintro item member ⟨entries, rfl, hnamed⟩
  exact hnamed.references

theorem name_and_base_of_readType {type : ExportedType} (h : readType entries = .ok type) :
    requireText entries "name" = .ok type.fullName ∧ readBase entries = .ok type.base? := by
  simp only [readType, Outcome.except_bind_eq_ok_iff] at h
  obtain ⟨name, hname, kind, -, values, -, base?, hbase, constructors, -, methods, -,
    properties, -, fields, -, events, -, heq⟩ := h
  cases heq
  exact ⟨hname, hbase⟩

theorem namesSymbols_of_typeReading {type : ExportedType} (h : TypeReading entries type) :
    type.NamesSymbols ∧ (Nameless type.references ↔ Holds .type (.map entries) (.text "")) := by
  obtain ⟨hname, hbase⟩ := name_and_base_of_readType h.reading
  have hconstructors := namedBy_of_readInOrder namedBy_of_readConstructor h.constructors
  have hmethods := namedBy_of_readInOrder namedBy_of_readMethod h.methods
  have hproperties := namedBy_of_readInOrder namedBy_of_readProperty h.properties
  have hfields := namedBy_of_readInOrder namedBy_of_readField h.fields
  have hevents := namedBy_of_readInOrder namedBy_of_readEvent h.events
  have hnames : ∀ member ∈ type.members,
      member.name ≠ "" ∧ ∀ parameter ∈ member.parameters, parameter.name ≠ "" := by
    simp only [ExportedType.members, List.forall_mem_append]
    exact ⟨⟨⟨⟨names_of_namedBy hconstructors, names_of_namedBy hmethods⟩,
      names_of_namedBy hproperties⟩, names_of_namedBy hfields⟩, names_of_namedBy hevents⟩
  refine ⟨⟨requireText_ne_empty hname, fun member hmem => (hnames member hmem).1,
    fun member hmem => (hnames member hmem).2⟩, ?_⟩
  simp only [ExportedType.references, ExportedType.members, List.flatMap_append,
    Nameless.append_iff, readBase_nameless_iff hbase, nameless_of_namedBy hconstructors,
    nameless_of_namedBy hmethods, nameless_of_namedBy hproperties, nameless_of_namedBy hfields,
    nameless_of_namedBy hevents, holds_map_iff, Role.parts, List.mem_cons, exists_eq_or_imp,
    List.not_mem_nil, or_false, exists_eq_left, or_assoc]

theorem namesSymbols_of_readTypes {items : List Value} {types : List ExportedType}
    (h : List.Forall₂ (fun item type => ∃ entries, item = .map entries ∧ TypeReading entries type)
      items types) :
    (∀ type ∈ types, type.NamesSymbols) ∧ ((∃ type ∈ types, Nameless type.references) ↔
      ∃ item ∈ items, Holds .type item (.text "")) := by
  constructor
  · intro type hmem
    obtain ⟨item, -, entries, -, hreading⟩ := exists_left_of_forall₂ h hmem
    exact (namesSymbols_of_typeReading hreading).1
  · apply exists_mem_iff_of_forall₂ h
    rintro item type ⟨entries, rfl, hreading⟩
    exact (namesSymbols_of_typeReading hreading).2

/-- All that a document describes has a name, but a reference has one only if no empty text
stands for it or for one of its arguments. -/
theorem namesSymbols_of_readDocument {document : Value} {types : List ExportedType}
    (h : (readDocument document).result = .ok types) :
    (∀ type ∈ types, type.NamesSymbols) ∧
      ((∀ type ∈ types, ∀ ref ∈ type.references, "" ∉ ref.names) ↔
        ¬ Holds .document (publicPart document) (.text "")) := by
  obtain ⟨entries, items, hpublic, hget, hread⟩ := (ignoresHidden document).types types h
  obtain ⟨hnames, hiff⟩ := namesSymbols_of_readTypes hread
  have hitems : itemsAt entries "types" = items := by rw [itemsAt, hget]
  have hdocument : Holds .document (publicPart document) (.text "") ↔
      ∃ type ∈ types, Nameless type.references := by
    simp [hpublic, holds_map_iff, Role.parts, HoldsAt, hitems, hiff]
  refine ⟨hnames, ?_⟩
  rw [hdocument]
  simp [Nameless]

def documentWithParameter (parameterType : Value) : Value :=
  .map [(.text "types", .list [.map [(.text "name", .text "N.C"), (.text "methods", .list [
    .map [(.text "name", .text "Run"), (.text "parameters", .list [
      .map [(.text "name", .text "x"), (.text "type", parameterType)]])]])]])]

def typeWithParameter (parameterType : TypeRef) : ExportedType :=
  ⟨"N.C", .classType, none, [], [],
    [⟨"Run", none, [⟨"x", parameterType, false, .null⟩], false, false⟩], [], [], []⟩

theorem namesSymbols_of_empty_argument :
    let document := documentWithParameter (.map [(.text "name", .text "N.List\x601"),
      (.text "arguments", .list [.text ""])])
    let type := typeWithParameter ⟨"N.List\x601", [⟨"", []⟩]⟩
    (readDocument document).result = .ok [type] ∧ type.NamesSymbols ∧
      Holds .document (publicPart document) (.text "") := by
  intro document type
  have hread : (readDocument document).result = .ok [type] := rfl
  obtain ⟨hnames, hiff⟩ := namesSymbols_of_readDocument hread
  have hnameless : ¬ ∀ type' ∈ [type], ∀ ref ∈ type'.references, "" ∉ ref.names := by
    simp [type, typeWithParameter, ExportedType.references, ExportedType.members, Member.references,
      TypeRef.names, TypeRef.namesAll]
  exact ⟨hread, hnames type (List.mem_singleton_self type), not_not.mp (mt hiff.mpr hnameless)⟩

/-- An empty text is accepted as the type of a parameter, whose method then has an identifier
that no documentation has. -/
theorem nameless_parameter_type :
    ∃ type, (readDocument (documentWithParameter (.text ""))).result = .ok [type] ∧
      (∃ ref ∈ type.references, ref.name = "") ∧
      type.members.map type.memberId = ["N.C.Run()"] :=
  ⟨typeWithParameter ⟨"", []⟩, rfl, ⟨⟨"", []⟩, List.mem_singleton_self _, rfl⟩, rfl⟩

end ApiDocs.Metadata
