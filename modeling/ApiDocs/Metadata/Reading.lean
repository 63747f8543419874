import ApiDocs.Log
import ApiDocs.Metadata.ExportedType
import ApiDocs.Outcome
import ApiDocs.Value.Text

namespace ApiDocs.Metadata

/-! Types read from a decoded document.  What is not public is passed over unread. -/

inductive Error where
  | noTypes
  | notMapping (what : String)
  | missingText (key : String)
  | missingKey (key : String)
  | argumentsNoList (name? : Option Value)
  | unknownKind (type : String) (kind : Value)
  | valuesNoNames (type : String)
  | membersNoList (key : String) (type? : Option Value)
  | parametersNoList
  | endless

def messageOf (value? : Option Value) : String :=
  (value?.getD .null).message

def Error.message : Error → String
  | noTypes => "metadata must define a 'types' list"
  | notMapping what => s!"{what} must be a mapping"
  | missingText key => s!"missing string '{key}'"
  | missingKey key => Text.quote key
  | argumentsNoList name? => s!"type '{messageOf name?}' arguments must be a list"
  | unknownKind type kind => s!"type '{type}' has unsupported kind '{kind.message}'"
  | valuesNoNames type => s!"enum values of '{type}' must be a list of names"
  | membersNoList key type? => s!"'{key}' of type '{messageOf type?}' must be a list"
  | parametersNoList => "'parameters' must be a list"
  | endless => "maximum recursion depth exceeded"

inductive Notice where
  | typeSkipped (name? : Option Value)
  | loaded (count : Nat)

namespace Notice

def level : Notice → Level
  | typeSkipped _ => .debug
  | loaded _ => .info

def message : Notice → String
  | typeSkipped name? => s!"skipping non-public type {messageOf name?}"
  | loaded count => s!"loaded metadata for {count} exported types"

def logged (notice : Notice) : LogRecord :=
  ⟨notice.level, "xmldoc_md.metadata", notice.message⟩

end Notice

abbrev Entries := List (Value × Value)

def mapping (what : String) : Value → Except Error Entries
  | .map entries => .ok entries
  | _ => .error (.notMapping what)

def requireText (entries : Entries) (key : String) : Except Error String :=
  match Value.get? entries key with
  | some (.text value) => if value.isEmpty then .error (.missingText key) else .ok value
  | _ => .error (.missingText key)

def flag (entries : Entries) (key : String) (absent : Bool) : Bool :=
  match Value.get? entries key with
  | some value => value.isTruthy
  | none => absent

mutual

/-- Reads a type reference: a name, or a mapping with a name and perhaps arguments. -/
def readRef : Value → Except Error TypeRef
  | .text name => .ok ⟨name, []⟩
  | .map entries =>
      match readArguments entries with
      | none => .error (.argumentsNoList (Value.get? entries "name"))
      | some arguments =>
          match requireText entries "name" with
          | .error error => .error error
          | .ok name => arguments.map fun arguments => ⟨name, arguments⟩
  | .endless => .error .endless
  | _ => .error (.notMapping "type reference")

/-- Reads the arguments among the entries of a reference.  Nothing is read if they
are there, but are no list. -/
def readArguments : List (Value × Value) → Option (Except Error (List TypeRef))
  | [] => some (.ok [])
  | (key, value) :: rest =>
      match key with
      | .text name =>
          if name = "arguments" then
            match value with
            | .list items => some (readRefs items)
            | .endless => some (.error .endless)
            | _ => none
          else
            readArguments rest
      | _ => readArguments rest

def readRefs : List Value → Except Error (List TypeRef)
  | [] => .ok []
  | item :: rest =>
      match readRef item with
      | .error error => .error error
      | .ok ref => (readRefs rest).map (ref :: ·)

end

def requireRef (entries : Entries) (key : String) : Except Error TypeRef :=
  match Value.get? entries key with
  | some value => readRef value
  | none => .error (.missingKey key)

def readParameter (value : Value) : Except Error Parameter := do
  let entries ← mapping "parameter" value
  let name ← requireText entries "name"
  let type ← requireRef entries "type"
  .ok ⟨name, type, flag entries "optional" false,
    (Value.get? entries "default").getD .null⟩

def readParameters (entries : Entries) : Except Error (List Parameter) :=
  match Value.get? entries "parameters" with
  | none => .ok []
  | some (.list items) => items.mapM readParameter
  | some _ => .error .parametersNoList

def publicEntries (key : String) : List Value → Except Error (List Entries)
  | [] => .ok []
  | item :: rest => do
      let entries ← mapping (key ++ " entry") item
      let others ← publicEntries key rest
      .ok (if flag entries "public" true then entries :: others else others)

def readMembers {α : Type} (key : String) (read : Entries → Except Error α)
    (type : Entries) : Except Error (List α) := do
  let items ← match Value.get? type key with
    | none => .ok []
    | some (.list items) => publicEntries key items
    | some _ => .error (.membersNoList key (Value.get? type "name"))
  items.mapM read

def readConstructor (entries : Entries) : Except Error Constructor := do
  let parameters ← readParameters entries
  .ok ⟨parameters, flag entries "static" false⟩

/-- Reads what a method returns; a value that counts as false is no type. -/
def readReturns (entries : Entries) : Except Error (Option TypeRef) :=
  match Value.get? entries "returns" with
  | some value => if value.isTruthy then (readRef value).map some else .ok none
  | none => .ok none

def readMethod (entries : Entries) : Except Error Method := do
  let name ← requireText entries "name"
  let returns? ← readReturns entries
  let parameters ← readParameters entries
  .ok ⟨name, returns?, parameters, flag entries "static" false,
    flag entries "special_name" false⟩

def readProperty (entries : Entries) : Except Error Property := do
  let name ← requireText entries "name"
  let type ← requireRef entries "type"
  let parameters ← readParameters entries
  .ok ⟨name, type, parameters, flag entries "static" false⟩

def readField (entries : Entries) : Except Error Field := do
  let name ← requireText entries "name"
  let type ← requireRef entries "type"
  .ok ⟨name, type, flag entries "static" false⟩

def readEvent (entries : Entries) : Except Error Event := do
  let name ← requireText entries "name"
  let type ← requireRef entries "type"
  .ok ⟨name, type, flag entries "static" false⟩

def readKind (name : String) (entries : Entries) : Except Error TypeKind :=
  match Value.get? entries "kind" with
  | none => .ok .classType
  | some (.text word) =>
      match TypeKind.ofWord? word with
      | some kind => .ok kind
      | none => .error (.unknownKind name (.text word))
  | some value => .error (.unknownKind name value)

def textOf? : Value → Option String
  | .text value => some value
  | _ => none

def readValues (name : String) (entries : Entries) : Except Error (List String) :=
  match Value.get? entries "values" with
  | none => .ok []
  | some (.list items) =>
      match items.mapM textOf? with
      | some names => .ok names
      | none => .error (.valuesNoNames name)
  | some _ => .error (.valuesNoNames name)

def readBase (entries : Entries) : Except Error (Option TypeRef) :=
  match Value.get? entries "base" with
  | none => .ok none
  | some .null => .ok none
  | some value => (readRef value).map some

def readType (entries : Entries) : Except Error ExportedType := do
  let name ← requireText entries "name"
  let kind ← readKind name entries
  let values ← readValues name entries
  let base? ← readBase entries
  let constructors ← readMembers "constructors" readConstructor entries
  let methods ← readMembers "methods" readMethod entries
  let properties ← readMembers "properties" readProperty entries
  let fields ← readMembers "fields" readField entries
  let events ← readMembers "events" readEvent entries
  .ok ⟨name, kind, base?, values, constructors, methods, properties, fields, events⟩

def readTypes : List Value → Outcome Notice Error (List ExportedType)
  | [] => .ok []
  | item :: rest =>
      match mapping "type entry" item with
      | .error error => .fail error
      | .ok entries =>
          if flag entries "public" true then
            match readType entries with
            | .error error => .fail error
            | .ok type => (readTypes rest).map (type :: ·)
          else
            (readTypes rest).after [.typeSkipped (Value.get? entries "name")]

def readDocument : Value → Outcome Notice Error (List ExportedType)
  | .map entries =>
      match Value.get? entries "types" with
      | some (.list items) => readTypes items
      | _ => .fail .noTypes
  | _ => .fail .noTypes

end ApiDocs.Metadata
