import ApiDocs.Proofs.Metadata.PublicPart
import ApiDocs.Proofs.Metadata.Role

namespace ApiDocs.Metadata

/-! The two spellings of a reference.  A type without arguments may be written as its name or
as a map with its name, and a document reads the same either way. -/

mutual

/-- A value in a role, and the value with some names in it written as maps where they stand
for references. -/
inductive Respelled : Role → Value → Value → Prop where
  | same {role : Role} (value : Value) : Respelled role value value
  | named {name : String} (hne : name ≠ "") :
      Respelled .reference (.text name) (.map [(.text "name", .text name)])
  | applied {name : String} (hne : name ≠ "") :
      Respelled .reference (.text name)
        (.map [(.text "name", .text name), (.text "arguments", .list [])])
  | map {role : Role} {entries others : List (Value × Value)}
      (h : EntriesRespelled role entries others) : Respelled role (.map entries) (.map others)

inductive EntriesRespelled : Role → List (Value × Value) → List (Value × Value) → Prop where
  | nil {role : Role} : EntriesRespelled role [] []
  | cons {role : Role} {key value other : Value} {rest others : List (Value × Value)}
      (hpart : PartRespelled (role.part? key) value other)
      (hrest : EntriesRespelled role rest others) :
      EntriesRespelled role ((key, value) :: rest) ((key, other) :: others)

inductive PartRespelled : Option Part → Value → Value → Prop where
  | same {part? : Option Part} (value : Value) : PartRespelled part? value value
  | one {absence : Absence} {role : Role} {value other : Value}
      (h : Respelled role value other) :
      PartRespelled (some (.one absence role)) value other
  | many {role : Role} {items others : List Value} (h : ItemsRespelled role items others) :
      PartRespelled (some (.many role)) (.list items) (.list others)

inductive ItemsRespelled : Role → List Value → List Value → Prop where
  | nil {role : Role} : ItemsRespelled role [] []
  | cons {role : Role} {item other : Value} {rest others : List Value}
      (hitem : Respelled role item other) (hrest : ItemsRespelled role rest others) :
      ItemsRespelled role (item :: rest) (other :: others)

end

theorem EntriesRespelled.refl (role : Role) (entries : Entries) :
    EntriesRespelled role entries entries := by
  induction entries with
  | nil => exact .nil
  | cons entry rest ih => exact .cons (.same entry.2) ih

/-! Lookups. -/

variable {role : Role} {entries others : Entries}

theorem EntriesRespelled.get?_cases (h : EntriesRespelled role entries others) (name : String) :
    Value.get? entries name = Value.get? others name ∨
      ∃ value other, Value.get? entries name = some value ∧
        Value.get? others name = some other ∧
        PartRespelled (role.parts.lookup name) value other := by
  induction entries generalizing others with
  | nil =>
      cases h
      exact .inl rfl
  | cons entry rest ih =>
      cases h with
      | @cons _ key value other _ otherRest hpart hrest =>
          rw [Value.get?_cons, Value.get?_cons]
          cases key with
          | text word =>
              by_cases hword : word = name
              · subst hword
                simp only [if_true]
                exact .inr ⟨value, other, rfl, rfl, hpart⟩
              · simp only [hword, if_false]
                exact ih hrest
          | _ => exact ih hrest

theorem EntriesRespelled.get?_eq (h : EntriesRespelled role entries others) {name : String}
    (hname : role.parts.lookup name = none) :
    Value.get? entries name = Value.get? others name := by
  rcases h.get?_cases name with heq | ⟨value, other, hvalue, hother, hpart⟩
  · exact heq
  · rw [hname] at hpart
    cases hpart
    rw [hvalue, hother]

theorem EntriesRespelled.get?_one (h : EntriesRespelled role entries others) {name : String}
    {absence : Absence} {part : Role} (hname : role.parts.lookup name = some (.one absence part)) :
    Value.get? entries name = Value.get? others name ∨
      ∃ value other, Value.get? entries name = some value ∧
        Value.get? others name = some other ∧ Respelled part value other := by
  rcases h.get?_cases name with heq | ⟨value, other, hvalue, hother, hpart⟩
  · exact .inl heq
  · rw [hname] at hpart
    cases hpart with
    | same => exact .inl (hvalue.trans hother.symm)
    | one hrespelled => exact .inr ⟨value, other, hvalue, hother, hrespelled⟩

theorem EntriesRespelled.get?_many (h : EntriesRespelled role entries others) {name : String}
    {part : Role} (hname : role.parts.lookup name = some (.many part)) :
    Value.get? entries name = Value.get? others name ∨
      ∃ items news, Value.get? entries name = some (.list items) ∧
        Value.get? others name = some (.list news) ∧ ItemsRespelled part items news := by
  rcases h.get?_cases name with heq | ⟨value, other, hvalue, hother, hpart⟩
  · exact .inl heq
  · rw [hname] at hpart
    cases hpart with
    | same => exact .inl (hvalue.trans hother.symm)
    | many hitems => exact .inr ⟨_, _, hvalue, hother, hitems⟩

/-! References. -/

mutual

theorem readRef_eq_of_respelled {value other : Value} (h : Respelled .reference value other) :
    readRef value = readRef other := by
  cases h with
  | same => rfl
  | named hne => simp [readRef, readArguments, requireText, Value.get?, hne, Except.map]
  | applied hne =>
      simp [readRef, readArguments, readRefs, requireText, Value.get?, hne, Except.map]
  | @map _ entries others h =>
      have hname : Value.get? entries "name" = Value.get? others "name" := h.get?_eq rfl
      rw [readRef, readRef, requireText, requireText, hname, readArguments_eq_of_respelled h]
termination_by sizeOf value

theorem readArguments_eq_of_respelled {entries others : Entries}
    (h : EntriesRespelled .reference entries others) :
    readArguments entries = readArguments others := by
  cases h with
  | nil => rfl
  | @cons _ key value other rest otherRest hpart hrest =>
      rw [readArguments_cons, readArguments_cons, readArguments_eq_of_respelled hrest]
      cases key with
      | text name =>
          by_cases hname : name = "arguments"
          · subst hname
            have hmany : Role.part? .reference (.text "arguments") = some (.many .reference) := rfl
            rw [hmany] at hpart
            cases hpart with
            | same => rfl
            | many hitems => simp only [argumentsAt, readRefs_eq_of_respelled hitems]
          · simp only [hname, if_false]
      | _ => rfl
termination_by sizeOf entries

theorem readRefs_eq_of_respelled {items others : List Value}
    (h : ItemsRespelled .reference items others) : readRefs items = readRefs others := by
  cases h with
  | nil => rfl
  | cons hitem hrest =>
      rw [readRefs, readRefs, readRef_eq_of_respelled hitem, readRefs_eq_of_respelled hrest]
termination_by sizeOf items

end

/-! Readers of values in other roles. -/

theorem Respelled.map_or_same {value other : Value} (h : Respelled role value other)
    (hrole : role ≠ .reference) :
    (∃ entries others, value = .map entries ∧ other = .map others ∧
        EntriesRespelled role entries others) ∨
      value = other ∧ ∀ what, mapping what value = .error (.notMapping what) := by
  cases h with
  | same =>
      cases value with
      | map entries => exact .inl ⟨entries, entries, rfl, rfl, .refl role entries⟩
      | _ => exact .inr ⟨rfl, fun _ => rfl⟩
  | named => exact absurd rfl hrole
  | applied => exact absurd rfl hrole
  | map hentries => exact .inl ⟨_, _, rfl, rfl, hentries⟩

theorem requireText_eq_of_respelled (h : EntriesRespelled role entries others) (key : String)
    (hkey : role.parts.lookup key = none) : requireText entries key = requireText others key := by
  rw [requireText, requireText, h.get?_eq hkey]

theorem flag_eq_of_respelled (h : EntriesRespelled role entries others) (key : String)
    (hkey : role.parts.lookup key = none) (absent : Bool) :
    flag entries key absent = flag others key absent := by
  rw [flag, flag, h.get?_eq hkey]

theorem requireRef_eq_of_respelled (h : EntriesRespelled role entries others) (key : String)
    (hkey : role.parts.lookup key = some (.one .never .reference)) :
    requireRef entries key = requireRef others key := by
  rw [requireRef, requireRef]
  rcases h.get?_one hkey with heq | ⟨value, other, hvalue, hother, href⟩
  · rw [heq]
  · rw [hvalue, hother]
    exact readRef_eq_of_respelled href

variable {α : Type}

theorem mapM_eq_of_respelled {read : Value → Except Error α}
    (hread : ∀ {value other}, Respelled role value other → read value = read other)
    {items news : List Value} (h : ItemsRespelled role items news) :
    items.mapM read = news.mapM read := by
  induction items generalizing news with
  | nil =>
      cases h
      rfl
  | cons item rest ih =>
      cases h with
      | cons hitem hrest => rw [List.mapM_cons, List.mapM_cons, hread hitem, ih hrest]

theorem readParameter_eq_of_respelled {value other : Value}
    (h : Respelled .parameter value other) : readParameter value = readParameter other := by
  rcases h.map_or_same (by decide) with ⟨entries, others, rfl, rfl, hentries⟩ | ⟨rfl, -⟩
  · have hdefault : Value.get? entries "default" = Value.get? others "default" :=
      hentries.get?_eq rfl
    simp only [readParameter, mapping, bind, Except.bind, hdefault,
      requireText_eq_of_respelled hentries "name" rfl,
      requireRef_eq_of_respelled hentries "type" rfl,
      flag_eq_of_respelled hentries "optional" rfl]
  · rfl

theorem readParameters_eq_of_respelled (h : EntriesRespelled role entries others)
    (hkey : role.parts.lookup "parameters" = some (.many .parameter)) :
    readParameters entries = readParameters others := by
  rw [readParameters, readParameters]
  rcases h.get?_many hkey with heq | ⟨items, news, hitems, hnews, hrespelled⟩
  · rw [heq]
  · rw [hitems, hnews]
    exact mapM_eq_of_respelled readParameter_eq_of_respelled hrespelled

theorem isTruthy_eq_of_respelled {value other : Value} (h : Respelled .reference value other) :
    value.isTruthy = other.isTruthy := by
  cases h with
  | same => rfl
  | named hne => simp [Value.isTruthy, hne]
  | applied hne => simp [Value.isTruthy, hne]
  | map h => cases h <;> rfl

theorem readReturns_eq_of_respelled (h : EntriesRespelled .method entries others) :
    readReturns entries = readReturns others := by
  have hkey : Role.method.parts.lookup "returns" = some (.one .falsy .reference) := rfl
  rw [readReturns, readReturns]
  rcases h.get?_one hkey with heq | ⟨value, other, hvalue, hother, href⟩
  · rw [heq]
  · rw [hvalue, hother]
    simp only [isTruthy_eq_of_respelled href, readRef_eq_of_respelled href]

theorem readBase_eq_of_respelled (h : EntriesRespelled .type entries others) :
    readBase entries = readBase others := by
  have hkey : Role.type.parts.lookup "base" = some (.one .null .reference) := rfl
  rw [readBase, readBase]
  rcases h.get?_one hkey with heq | ⟨value, other, hvalue, hother, href⟩
  · rw [heq]
  · have hread := readRef_eq_of_respelled href
    rw [hvalue, hother]
    cases href with
    | same => rfl
    | named => exact congrArg (Except.map some) hread
    | applied => exact congrArg (Except.map some) hread
    | map => exact congrArg (Except.map some) hread

/-! Members. -/

theorem readConstructor_eq_of_respelled (h : EntriesRespelled .constructor entries others) :
    readConstructor entries = readConstructor others := by
  simp only [readConstructor, readParameters_eq_of_respelled h rfl,
    flag_eq_of_respelled h "static" rfl]

theorem readMethod_eq_of_respelled (h : EntriesRespelled .method entries others) :
    readMethod entries = readMethod others := by
  simp only [readMethod, requireText_eq_of_respelled h "name" rfl, readReturns_eq_of_respelled h,
    readParameters_eq_of_respelled h rfl, flag_eq_of_respelled h "static" rfl,
    flag_eq_of_respelled h "special_name" rfl]

theorem readProperty_eq_of_respelled (h : EntriesRespelled .property entries others) :
    readProperty entries = readProperty others := by
  simp only [readProperty, requireText_eq_of_respelled h "name" rfl,
    requireRef_eq_of_respelled h "type" rfl, readParameters_eq_of_respelled h rfl,
    flag_eq_of_respelled h "static" rfl]

theorem readField_eq_of_respelled (h : EntriesRespelled .field entries others) :
    readField entries = readField others := by
  simp only [readField, requireText_eq_of_respelled h "name" rfl,
    requireRef_eq_of_respelled h "type" rfl, flag_eq_of_respelled h "static" rfl]

theorem readEvent_eq_of_respelled (h : EntriesRespelled .event entries others) :
    readEvent entries = readEvent others := by
  simp only [readEvent, requireText_eq_of_respelled h "name" rfl,
    requireRef_eq_of_respelled h "type" rfl, flag_eq_of_respelled h "static" rfl]

theorem isHidden_eq_of_respelled (h : EntriesRespelled role entries others)
    (hpublic : role.parts.lookup "public" = none) :
    isHidden (.map entries) = isHidden (.map others) := by
  rw [isHidden, isHidden, h.get?_eq hpublic]

theorem publicEntries_cases_of_respelled (key : String) (hrole : role ≠ .reference)
    (hpublic : role.parts.lookup "public" = none) {items news : List Value}
    (h : ItemsRespelled role items news) :
    (∃ error, publicEntries key items = .error error ∧ publicEntries key news = .error error) ∨
      ∃ found others, publicEntries key items = .ok found ∧ publicEntries key news = .ok others ∧
        List.Forall₂ (EntriesRespelled role) found others := by
  induction items generalizing news with
  | nil =>
      cases h
      exact .inr ⟨[], [], rfl, rfl, .nil⟩
  | cons item rest ih =>
      cases h with
      | @cons _ _ other _ otherRest hitem hrest =>
          rcases hitem.map_or_same hrole with ⟨entries, others, rfl, rfl, hentries⟩ | ⟨rfl, hother⟩
          · rw [publicEntries_map_cons, publicEntries_map_cons,
              isHidden_eq_of_respelled hentries hpublic]
            rcases ih hrest with ⟨error, herror, hnews⟩ | ⟨found, later, hfound, hlater, hall⟩
            · rw [herror, hnews]
              exact .inl ⟨error, rfl, rfl⟩
            · rw [hfound, hlater]
              refine .inr ⟨_, _, rfl, rfl, ?_⟩
              cases isHidden (.map others) with
              | true => exact hall
              | false => exact .cons hentries hall
          · rw [publicEntries, publicEntries, hother]
            exact .inl ⟨_, rfl, rfl⟩

theorem mapM_entries_eq_of_respelled {read : Entries → Except Error α}
    (hread : ∀ {entries others}, EntriesRespelled role entries others →
      read entries = read others)
    {found others : List Entries} (h : List.Forall₂ (EntriesRespelled role) found others) :
    found.mapM read = others.mapM read := by
  induction h with
  | nil => rfl
  | cons hentries _ ih => rw [List.mapM_cons, List.mapM_cons, hread hentries, ih]

theorem readMembers_eq_of_respelled {key : String} (hrole : role ≠ .reference)
    (hpublic : role.parts.lookup "public" = none)
    (hkey : Role.type.parts.lookup key = some (.many role)) {read : Entries → Except Error α}
    (hread : ∀ {entries others}, EntriesRespelled role entries others →
      read entries = read others)
    (h : EntriesRespelled .type entries others) :
    readMembers key read entries = readMembers key read others := by
  have hname : Value.get? entries "name" = Value.get? others "name" := h.get?_eq rfl
  rw [readMembers, readMembers, hname]
  rcases h.get?_many hkey with heq | ⟨items, news, hitems, hnews, hrespelled⟩
  · rw [heq]
  · rw [hitems, hnews]
    rcases publicEntries_cases_of_respelled key hrole hpublic hrespelled with
      ⟨error, herror, hother⟩ | ⟨found, later, hfound, hlater, hall⟩
    · simp only [herror, hother]
    · simp only [hfound, hlater, bind, Except.bind]
      exact mapM_entries_eq_of_respelled hread hall

/-! Types and documents. -/

theorem readType_eq_of_respelled (h : EntriesRespelled .type entries others) :
    readType entries = readType others := by
  have hkind : Value.get? entries "kind" = Value.get? others "kind" := h.get?_eq rfl
  have hvalues : Value.get? entries "values" = Value.get? others "values" := h.get?_eq rfl
  have hconstructors : readMembers "constructors" readConstructor entries =
      readMembers "constructors" readConstructor others :=
    readMembers_eq_of_respelled (by decide) rfl rfl readConstructor_eq_of_respelled h
  have hmethods : readMembers "methods" readMethod entries =
      readMembers "methods" readMethod others :=
    readMembers_eq_of_respelled (by decide) rfl rfl readMethod_eq_of_respelled h
  have hproperties : readMembers "properties" readProperty entries =
      readMembers "properties" readProperty others :=
    readMembers_eq_of_respelled (by decide) rfl rfl readProperty_eq_of_respelled h
  have hfields : readMembers "fields" readField entries =
      readMembers "fields" readField others :=
    readMembers_eq_of_respelled (by decide) rfl rfl readField_eq_of_respelled h
  have hevents : readMembers "events" readEvent entries =
      readMembers "events" readEvent others :=
    readMembers_eq_of_respelled (by decide) rfl rfl readEvent_eq_of_respelled h
  simp only [readType, readKind, readValues, hkind, hvalues, hconstructors, hmethods,
    hproperties, hfields, hevents, requireText_eq_of_respelled h "name" rfl,
    readBase_eq_of_respelled h]

theorem readTypes_eq_of_respelled {items news : List Value}
    (h : ItemsRespelled .type items news) : readTypes items = readTypes news := by
  induction items generalizing news with
  | nil =>
      cases h
      rfl
  | cons item rest ih =>
      cases h with
      | @cons _ _ other _ otherRest hitem hrest =>
          rw [readTypes, readTypes, ih hrest]
          rcases hitem.map_or_same (by decide) with
            ⟨entries, others, rfl, rfl, hentries⟩ | ⟨rfl, -⟩
          · have hname : Value.get? entries "name" = Value.get? others "name" :=
              hentries.get?_eq rfl
            simp only [mapping, flag_eq_of_respelled hentries "public" rfl,
              readType_eq_of_respelled hentries, hname]
          · rfl

/-- A document reads the same, with the same types or the same error, however the names are
spelled that stand for references in it. -/
theorem readDocument_eq_of_respelled {document other : Value}
    (h : Respelled .document document other) : readDocument document = readDocument other := by
  rcases h.map_or_same (by decide) with ⟨entries, others, rfl, rfl, hentries⟩ | ⟨rfl, -⟩
  · have hkey : Role.document.parts.lookup "types" = some (.many .type) := rfl
    rw [readDocument, readDocument]
    rcases hentries.get?_many hkey with heq | ⟨items, news, hitems, hnews, hrespelled⟩
    · rw [heq]
    · rw [hitems, hnews]
      exact readTypes_eq_of_respelled hrespelled
  · rfl

theorem readDocument_of_base_and_argument_as_maps :
    let document (base argument : Value) : Value := .map [(.text "types", .list [.map [
      (.text "name", .text "N.C"), (.text "base", base), (.text "methods", .list [.map [
        (.text "name", .text "Run"), (.text "returns", .map [
          (.text "name", .text "N.List\x601"), (.text "arguments", .list [argument])])]])]])]
    let before := document (.text "N.Base") (.text "N.Item")
    let after := document (.map [(.text "name", .text "N.Base")])
      (.map [(.text "name", .text "N.Item"), (.text "arguments", .list [])])
    Respelled .document before after ∧ readDocument before = readDocument after ∧
      (readDocument after).result = .ok [⟨"N.C", .classType, some ⟨"N.Base", []⟩, [], [],
        [⟨"Run", some ⟨"N.List\x601", [⟨"N.Item", []⟩]⟩, [], false, false⟩], [], [], []⟩] := by
  intro document before after
  have hreturns : Respelled .reference
      (.map [(.text "name", .text "N.List\x601"), (.text "arguments", .list [.text "N.Item"])])
      (.map [(.text "name", .text "N.List\x601"), (.text "arguments", .list [
        .map [(.text "name", .text "N.Item"), (.text "arguments", .list [])]])]) :=
    .map (.cons (.same _) (.cons (.many (.cons (.applied (by decide)) .nil)) .nil))
  have h : Respelled .document before after :=
    .map (.cons (.many (.cons (.map (.cons (.same _) (.cons (.one (.named (by decide)))
      (.cons (.many (.cons (.map (.cons (.same _) (.cons (.one hreturns) .nil))) .nil))
        .nil)))) .nil)) .nil)
  exact ⟨h, readDocument_eq_of_respelled h, rfl⟩

end ApiDocs.Metadata
