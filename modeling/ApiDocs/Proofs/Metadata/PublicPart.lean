import ApiDocs.Metadata.Reading
import Mathlib.Data.List.Forall2

namespace ApiDocs

/-! The public part of a document.  Types and members that say that they are not public are
never read, so a document reads the same without them. -/

namespace Value

def mapKeys (keys : List String) (change : Value → Value) (entries : List (Value × Value)) :
    List (Value × Value) :=
  entries.map fun (key, value) =>
    match key with
    | text name => if name ∈ keys then (key, change value) else (key, value)
    | _ => (key, value)

theorem get?_cons (key value : Value) (rest : List (Value × Value)) (name : String) :
    get? ((key, value) :: rest) name =
      match key with
      | text word => if word = name then some value else get? rest name
      | _ => get? rest name := by
  rw [get?, List.find?_cons]
  cases key with
  | text word =>
      by_cases hword : word = name
      · simp [hword]
      · simp only [hword, decide_false, if_false, get?]
  | _ => rfl

theorem get?_mapKeys (keys : List String) (change : Value → Value)
    (entries : List (Value × Value)) (name : String) :
    get? (mapKeys keys change entries) name =
      if name ∈ keys then (get? entries name).map change else get? entries name := by
  induction entries with
  | nil => simp [mapKeys, get?]
  | cons entry rest ih =>
      obtain ⟨key, value⟩ := entry
      rw [get?_cons, mapKeys, List.map_cons, ← mapKeys]
      cases key with
      | text word =>
          by_cases hword : word = name
          · subst hword
            by_cases hmem : word ∈ keys <;> simp [get?_cons, hmem]
          · by_cases hmem : word ∈ keys <;> simp [get?_cons, hmem, hword, ih]
      | _ => simp [get?_cons, ih]

theorem get?_mapKeys_of_not_mem {keys : List String} {name : String} (h : name ∉ keys)
    (change : Value → Value) (entries : List (Value × Value)) :
    get? (mapKeys keys change entries) name = get? entries name := by
  rw [get?_mapKeys, if_neg h]

end Value

namespace Metadata

/-- An entry that says that it is not public. -/
def isHidden : Value → Bool
  | .map entries => (Value.get? entries "public").any fun value => !value.isTruthy
  | _ => false

def publicItems : Value → Value
  | .list items => .list (items.filter (!isHidden ·))
  | value => value

def memberKeys : List String :=
  ["constructors", "methods", "properties", "fields", "events"]

def publicMembers : Value → Value
  | .map entries => .map (Value.mapKeys memberKeys publicItems entries)
  | value => value

def publicTypes : Value → Value
  | .list items => .list ((items.filter (!isHidden ·)).map publicMembers)
  | value => value

/-- A document without the types that are not public, and without the members of the other
types that are not public. -/
def publicPart : Value → Value
  | .map entries => .map (Value.mapKeys ["types"] publicTypes entries)
  | value => value

theorem flag_public (entries : Entries) :
    flag entries "public" true = !isHidden (.map entries) := by
  rw [flag, isHidden]
  cases Value.get? entries "public" with
  | none => rfl
  | some value => simp

/-! Members. -/

theorem publicEntries_map_cons (key : String) (entries : Entries) (rest : List Value) :
    publicEntries key (.map entries :: rest) =
      (publicEntries key rest).map fun others =>
        if isHidden (.map entries) then others else entries :: others := by
  rw [publicEntries]
  cases hrest : publicEntries key rest with
  | error error => rfl
  | ok others =>
      simp only [mapping, bind, Except.bind, Except.map, flag_public]
      cases isHidden (.map entries) <;> rfl

theorem publicEntries_filter (key : String) (items : List Value) :
    publicEntries key (items.filter (!isHidden ·)) = publicEntries key items := by
  induction items with
  | nil => rfl
  | cons item rest ih =>
      cases item with
      | map entries =>
          rw [publicEntries_map_cons, ← ih]
          cases hhidden : isHidden (.map entries) with
          | true =>
              rw [List.filter_cons_of_neg (by simp [hhidden])]
              cases publicEntries key (rest.filter (!isHidden ·)) <;> rfl
          | false =>
              rw [List.filter_cons_of_pos (by simp [hhidden]), publicEntries_map_cons, hhidden]
      | _ =>
          rw [List.filter_cons_of_pos (by simp [isHidden])]
          rfl

variable {α : Type}

theorem readMembers_mapKeys {key : String} (hkey : key ∈ memberKeys)
    (read : Entries → Except Error α) (entries : Entries) :
    readMembers key read (Value.mapKeys memberKeys publicItems entries) =
      readMembers key read entries := by
  have hname : "name" ∉ memberKeys := by decide
  rw [readMembers, readMembers, Value.get?_mapKeys, if_pos hkey,
    Value.get?_mapKeys_of_not_mem hname]
  cases Value.get? entries key with
  | none => rfl
  | some value =>
      cases value with
      | list items => simp only [Option.map_some, publicItems, publicEntries_filter]
      | _ => rfl

/-! Types. -/

theorem readType_mapKeys (entries : Entries) :
    readType (Value.mapKeys memberKeys publicItems entries) = readType entries := by
  have hget : ∀ key ∉ memberKeys,
      Value.get? (Value.mapKeys memberKeys publicItems entries) key = Value.get? entries key :=
    fun key hkey => Value.get?_mapKeys_of_not_mem hkey publicItems entries
  have hconstructors : "constructors" ∈ memberKeys := by decide
  have hmethods : "methods" ∈ memberKeys := by decide
  have hproperties : "properties" ∈ memberKeys := by decide
  have hfields : "fields" ∈ memberKeys := by decide
  have hevents : "events" ∈ memberKeys := by decide
  simp only [readType, requireText, readKind, readValues, readBase, hget "name" (by decide),
    hget "kind" (by decide), hget "values" (by decide), hget "base" (by decide),
    readMembers_mapKeys hconstructors, readMembers_mapKeys hmethods,
    readMembers_mapKeys hproperties, readMembers_mapKeys hfields, readMembers_mapKeys hevents]

theorem isHidden_publicMembers (item : Value) :
    isHidden (publicMembers item) = isHidden item := by
  cases item with
  | map entries =>
      rw [publicMembers, isHidden, isHidden, Value.get?_mapKeys_of_not_mem (by decide)]
  | _ => rfl

theorem readTypes_result_cons (entries : Entries) (rest : List Value) :
    (readTypes (.map entries :: rest)).result =
      if isHidden (.map entries) then
        (readTypes rest).result
      else
        readType entries >>= fun type => (readTypes rest).result.map (type :: ·) := by
  simp only [readTypes, mapping, flag_public]
  cases isHidden (.map entries) with
  | true => rfl
  | false => cases readType entries <;> rfl

theorem readTypes_public (items : List Value) :
    (readTypes ((items.filter (!isHidden ·)).map publicMembers)).result =
      (readTypes items).result := by
  induction items with
  | nil => rfl
  | cons item rest ih =>
      cases item with
      | map entries =>
          cases hhidden : isHidden (.map entries) with
          | true =>
              rw [List.filter_cons_of_neg (by simp [hhidden]), ih, readTypes_result_cons,
                if_pos hhidden]
          | false =>
              have hpublic := isHidden_publicMembers (.map entries)
              rw [publicMembers, hhidden] at hpublic
              rw [List.filter_cons_of_pos (by simp [hhidden]), List.map_cons, publicMembers,
                readTypes_result_cons, readTypes_result_cons, hpublic, hhidden, ih,
                readType_mapKeys]
      | _ =>
          rw [List.filter_cons_of_pos (by simp [isHidden])]
          rfl

theorem readDocument_publicPart (document : Value) :
    (readDocument (publicPart document)).result = (readDocument document).result := by
  cases document with
  | map entries =>
      rw [publicPart, readDocument, readDocument, Value.get?_mapKeys,
        if_pos (List.mem_singleton_self "types")]
      cases Value.get? entries "types" with
      | none => rfl
      | some value =>
          cases value with
          | list items => exact readTypes_public items
          | _ => rfl
  | _ => rfl

/-! What is read of a document that can be read. -/

/-- Members in the order of their items, each as its item says. -/
def ReadInOrder (read : Entries → Except Error α) (items : List Value) (members : List α) :
    Prop :=
  List.Forall₂ (fun item member => ∃ entries, item = .map entries ∧ read entries = .ok member)
    items members

def itemsAt (entries : Entries) (key : String) : List Value :=
  match Value.get? entries key with
  | some (.list items) => items
  | _ => []

/-- A type and its members as the entry of the type says, none left out and none twice. -/
structure TypeReading (entries : Entries) (type : ExportedType) : Prop where
  reading : readType entries = .ok type
  name : Value.get? entries "name" = some (.text type.fullName)
  constructors :
    ReadInOrder readConstructor (itemsAt entries "constructors") type.constructors
  methods : ReadInOrder readMethod (itemsAt entries "methods") type.methods
  properties : ReadInOrder readProperty (itemsAt entries "properties") type.properties
  fields : ReadInOrder readField (itemsAt entries "fields") type.fields
  events : ReadInOrder readEvent (itemsAt entries "events") type.events

theorem forall₂_of_mapM_eq_ok {β ε : Type} {read : α → Except ε β} {items : List α}
    {values : List β} (h : items.mapM read = .ok values) :
    List.Forall₂ (fun item value => read item = .ok value) items values := by
  induction items generalizing values with
  | nil =>
      cases h
      exact .nil
  | cons item rest ih =>
      rw [List.mapM_cons] at h
      obtain ⟨value, hvalue, h⟩ := Outcome.except_bind_eq_ok_iff.mp h
      obtain ⟨others, hothers, h⟩ := Outcome.except_bind_eq_ok_iff.mp h
      cases h
      exact .cons hvalue (ih hothers)

theorem filter_of_publicEntries {key : String} {items : List Value} {found : List Entries}
    (h : publicEntries key items = .ok found) :
    items.filter (!isHidden ·) = found.map .map := by
  induction items generalizing found with
  | nil =>
      cases h
      rfl
  | cons item rest ih =>
      cases item with
      | map entries =>
          rw [publicEntries_map_cons] at h
          cases hrest : publicEntries key rest with
          | error error => simp [hrest, Except.map] at h
          | ok others =>
              simp only [hrest, Except.map, Except.ok.injEq] at h
              subst h
              cases hhidden : isHidden (.map entries) with
              | true => rw [List.filter_cons_of_neg (by simp [hhidden]), ih hrest]; rfl
              | false => rw [List.filter_cons_of_pos (by simp [hhidden]), ih hrest]; rfl
      | _ => cases h

theorem itemsAt_mapKeys {key : String} (hkey : key ∈ memberKeys) (entries : Entries) :
    itemsAt (Value.mapKeys memberKeys publicItems entries) key =
      (itemsAt entries key).filter (!isHidden ·) := by
  rw [itemsAt, itemsAt, Value.get?_mapKeys, if_pos hkey]
  cases Value.get? entries key with
  | none => rfl
  | some value => cases value <;> rfl

theorem readInOrder_of_readMembers {key : String} (hkey : key ∈ memberKeys)
    {read : Entries → Except Error α} {entries : Entries} {members : List α}
    (h : readMembers key read entries = .ok members) :
    ReadInOrder read (itemsAt (Value.mapKeys memberKeys publicItems entries) key) members := by
  have hfiltered : ∃ found : List Entries,
      (itemsAt entries key).filter (!isHidden ·) = found.map .map ∧
        found.mapM read = .ok members := by
    rw [readMembers] at h
    rw [itemsAt]
    split at h
    · next hget =>
        rw [hget]
        exact ⟨[], rfl, h⟩
    · next items hget =>
        rw [hget]
        obtain ⟨found, hfound, hread⟩ := Outcome.except_bind_eq_ok_iff.mp h
        exact ⟨found, filter_of_publicEntries hfound, hread⟩
    · cases h
  obtain ⟨found, hitems, hread⟩ := hfiltered
  rw [itemsAt_mapKeys hkey, hitems, ReadInOrder, List.forall₂_map_left_iff]
  apply (forall₂_of_mapM_eq_ok hread).imp
  intro fields member hmember
  exact ⟨fields, rfl, hmember⟩

theorem get?_of_requireText {entries : Entries} {key value : String}
    (h : requireText entries key = .ok value) : Value.get? entries key = some (.text value) := by
  rw [requireText] at h
  split at h
  · next found hget =>
      split at h
      · cases h
      · cases h
        exact hget
  · cases h

theorem typeReading_of_readType {entries : Entries} {type : ExportedType}
    (h : readType entries = .ok type) :
    TypeReading (Value.mapKeys memberKeys publicItems entries) type := by
  have hreading := (readType_mapKeys entries).trans h
  simp only [readType, Outcome.except_bind_eq_ok_iff] at h
  obtain ⟨name, hname, kind, -, values, -, base?, -, constructors, hconstructors, methods,
    hmethods, properties, hproperties, fields, hfields, events, hevents, heq⟩ := h
  cases heq
  have hkey : "name" ∉ memberKeys := by decide
  exact {
    reading := hreading
    name := (Value.get?_mapKeys_of_not_mem hkey _ _).trans (get?_of_requireText hname)
    constructors := readInOrder_of_readMembers (by decide) hconstructors
    methods := readInOrder_of_readMembers (by decide) hmethods
    properties := readInOrder_of_readMembers (by decide) hproperties
    fields := readInOrder_of_readMembers (by decide) hfields
    events := readInOrder_of_readMembers (by decide) hevents }

theorem forall₂_of_readTypes {items : List Value} {types : List ExportedType}
    (h : (readTypes items).result = .ok types) :
    List.Forall₂ (fun item type => ∃ entries, item = .map entries ∧ TypeReading entries type)
      ((items.filter (!isHidden ·)).map publicMembers) types := by
  induction items generalizing types with
  | nil =>
      cases h
      exact .nil
  | cons item rest ih =>
      cases item with
      | map entries =>
          rw [readTypes_result_cons] at h
          cases hhidden : isHidden (.map entries) with
          | true =>
              rw [hhidden, if_pos rfl] at h
              rw [List.filter_cons_of_neg (by simp [hhidden])]
              exact ih h
          | false =>
              rw [hhidden, if_neg Bool.false_ne_true] at h
              obtain ⟨type, htype, h⟩ := Outcome.except_bind_eq_ok_iff.mp h
              cases hrest : (readTypes rest).result with
              | error error => simp [hrest, Except.map] at h
              | ok others =>
                  rw [hrest] at h
                  cases h
                  rw [List.filter_cons_of_pos (by simp [hhidden]), List.map_cons]
                  exact .cons ⟨_, rfl, typeReading_of_readType htype⟩ (ih hrest)
      | _ => cases h

/-- What is not public has no influence on what is read of a document. -/
structure IgnoresHidden (document : Value) : Prop where
  result : (readDocument (publicPart document)).result = (readDocument document).result
  types : ∀ types, (readDocument document).result = .ok types →
    ∃ entries items, publicPart document = .map entries ∧
      Value.get? entries "types" = some (.list items) ∧
      List.Forall₂ (fun item type => ∃ entries, item = .map entries ∧ TypeReading entries type)
        items types

/-- A document reads the same without its types and members that are not public, and what it
has besides these is read once each, in its order. -/
theorem ignoresHidden (document : Value) : IgnoresHidden document where
  result := readDocument_publicPart document
  types := by
    intro types h
    cases document with
    | map entries =>
        rw [readDocument] at h
        split at h
        · next items hget =>
            refine ⟨_, (items.filter (!isHidden ·)).map publicMembers, rfl, ?_,
              forall₂_of_readTypes h⟩
            rw [Value.get?_mapKeys, if_pos (List.mem_singleton_self "types"), hget]
            rfl
        · cases h
    | _ => cases h

/-- What is malformed in a type or a method that is not public is no error. -/
theorem ignoresHidden_of_malformed :
    (readDocument (.map [(.text "types", .list [
      .map [(.text "public", .bool false), (.text "kind", .int 3)],
      .map [(.text "name", .text "List"), (.text "methods", .list [
        .map [(.text "public", .bool false), (.text "parameters", .text "none")],
        .map [(.text "name", .text "Clear")]])]])])).result =
      .ok [⟨"List", .classType, none, [], [], [⟨"Clear", none, [], false, false⟩], [], [], []⟩] := by
  rw [← (ignoresHidden _).result]
  rfl

end Metadata

end ApiDocs
