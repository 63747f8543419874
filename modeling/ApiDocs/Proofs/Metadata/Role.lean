import ApiDocs.Proofs.Metadata.PublicPart

namespace ApiDocs.Metadata

/-! Roles: what the values in a document are read as, down to the references to types. -/

inductive Role where
  | document
  | type
  | constructor
  | method
  | property
  | field
  | event
  | parameter
  | reference
  deriving DecidableEq, Repr

/-- The values that are no reference although they stand where one may stand. -/
inductive Absence where
  | never
  | null
  | falsy
  deriving DecidableEq, Repr

def Absence.covers : Absence → Value → Bool
  | never, _ => false
  | null, .null => true
  | null, _ => false
  | falsy, value => !value.isTruthy

/-- What stands at a key: a value in a role, unless it is absent, or a list of such values. -/
inductive Part where
  | one (absence : Absence) (role : Role)
  | many (role : Role)
  deriving DecidableEq, Repr

namespace Role

/-- The parts of a map in a role by their keys. -/
def parts : Role → List (String × Part)
  | document => [("types", .many type)]
  | type => [
      ("base", .one .null reference), ("constructors", .many constructor),
      ("methods", .many method), ("properties", .many property), ("fields", .many field),
      ("events", .many event)]
  | constructor => [("parameters", .many parameter)]
  | method => [("returns", .one .falsy reference), ("parameters", .many parameter)]
  | property => [("type", .one .never reference), ("parameters", .many parameter)]
  | field => [("type", .one .never reference)]
  | event => [("type", .one .never reference)]
  | parameter => [("type", .one .never reference)]
  | reference => [("arguments", .many reference)]

def part? (role : Role) : Value → Option Part
  | .text name => role.parts.lookup name
  | _ => none

end Role

theorem readRefs_eq_mapM (items : List Value) : readRefs items = items.mapM readRef := by
  induction items with
  | nil => rfl
  | cons item rest ih =>
      rw [readRefs, List.mapM_cons, ih]
      cases readRef item with
      | error error => rfl
      | ok ref => cases rest.mapM readRef <;> rfl

def argumentsAt : Option Value → Option (Except Error (List TypeRef))
  | none => some (.ok [])
  | some (.list items) => some (readRefs items)
  | some .endless => some (.error .endless)
  | some _ => none

theorem readArguments_cons (key value : Value) (rest : Entries) :
    readArguments ((key, value) :: rest) =
      match key with
      | .text name =>
          if name = "arguments" then argumentsAt (some value) else readArguments rest
      | _ => readArguments rest := by
  cases key with
  | text name => cases value <;> rfl
  | _ => rfl

theorem readArguments_eq (entries : Entries) :
    readArguments entries = argumentsAt (Value.get? entries "arguments") := by
  induction entries with
  | nil => rfl
  | cons entry rest ih =>
      obtain ⟨key, value⟩ := entry
      rw [Value.get?_cons, readArguments_cons, ih]
      cases key with
      | text name => exact (apply_ite argumentsAt _ _ _).symm
      | _ => rfl

end ApiDocs.Metadata
