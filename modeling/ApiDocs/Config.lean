import ApiDocs.Value

namespace ApiDocs

/-! Settings.  Those that are not given have their standard value. -/

structure Config where
  codeLanguage : String
  memberDetails : Bool
  strict : Bool
  skipDelegates : Bool
  deriving DecidableEq, Repr

namespace Config

def standard : Config where
  codeLanguage := "csharp"
  memberDetails := true
  strict := true
  skipDelegates := true

inductive Error where
  | unknownKey (key : String)
  | wrongType (key expected : String)
  | notTable
  deriving DecidableEq, Repr

def tableName : String := "xmldoc-md"

def Error.message : Error → String
  | unknownKey key => s!"unknown config key '{key}'"
  | wrongType key expected => s!"config key '{key}' must be of type {expected}"
  | notTable => s!"config '{tableName}' must be a table"

def flag (key : String) (use : Bool → Config) : Value → Except Error Config
  | .bool value => .ok (use value)
  | _ => .error (.wrongType key "bool")

def set (config : Config) (key : String) (value : Value) : Except Error Config :=
  if key = "code-language" then
    match value with
    | .text language => .ok { config with codeLanguage := language }
    | _ => .error (.wrongType key "str")
  else if key = "member-details" then
    flag key (fun on => { config with memberDetails := on }) value
  else if key = "strict" then
    flag key (fun on => { config with strict := on }) value
  else if key = "skip-delegates" then
    flag key (fun on => { config with skipDelegates := on }) value
  else
    .error (.unknownKey key)

def ofEntries (entries : List (String × Value)) : Except Error Config :=
  entries.foldlM (fun config (key, value) => config.set key value) standard

def textEntries (entries : List (Value × Value)) : List (String × Value) :=
  entries.filterMap fun (key, value) =>
    match key with
    | .text name => some (name, value)
    | _ => none

/-- Reads the settings of a configuration file; without their table the standard
ones apply. -/
def ofDocument (document : List (Value × Value)) : Except Error Config :=
  match Value.get? document tableName with
  | none => .ok standard
  | some (.map entries) => ofEntries (textEntries entries)
  | some _ => .error .notTable

end Config

end ApiDocs
