import ApiDocs.FileTree
import ApiDocs.Metadata.File

namespace ApiDocs.Metadata

/-! Sources of types that are read once. -/

def load (tree : FileTree) (directory : Place) (path : Path) :
    Outcome Notice (LoadError FileError) (List ExportedType) :=
  (Outcome.ofExcept ((tree.read directory path).mapError .unreadable)).bind fun bytes =>
    (ofBytes bytes).mapError .unusable

def loadMessage? (path : Path) : LoadError FileError → Option String
  | .unreadable fault => some (fault.messageOfReading "metadata" path)
  | .unusable error => error.message? path.text

def loadMessage (path : Path) (error : LoadError FileError) : String :=
  (loadMessage? path error).getD s!"invalid metadata '{path.text}': malformed document"

/-- A source of types: the file that they come from, and the types themselves once
they have been read. -/
structure Provider where
  path : Path
  types? : Option (List ExportedType)

namespace Provider

def ofPath (path : Path) : Provider := ⟨path, none⟩

/-- The types of a provider, and the provider as it is then.  The file is read until
that succeeds once. -/
def exportedTypes (tree : FileTree) (directory : Place) (provider : Provider) :
    Outcome Notice (LoadError FileError) (List ExportedType) × Provider :=
  match provider.types? with
  | some types => (.ok types, provider)
  | none =>
      let outcome := load tree directory provider.path
      (outcome, { provider with types? := outcome.result.toOption })

end Provider

end ApiDocs.Metadata
