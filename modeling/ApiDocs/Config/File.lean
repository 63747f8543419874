import ApiDocs.Config
import ApiDocs.FileTree
import ApiDocs.Text.Utf8
import ApiDocs.Toml.Document

namespace ApiDocs.Config

/-! Settings in the file that holds them. -/

inductive FileError where
  | encoding (error : Text.Utf8Error)
  | toml (fault : Toml.Fault)
  | content (error : Error)
  deriving DecidableEq, Repr

def FileError.message : FileError → String
  | encoding error => error.message
  | toml fault => fault.message?.getD "the configuration file is malformed"
  | content error => error.message

def ofBytes (bytes : List UInt8) : Except FileError Config := do
  let text ← (Text.decodeUtf8 bytes).mapError .encoding
  let document ← (Toml.readDocument text).mapError .toml
  (ofDocument document).mapError .content

def load (tree : FileTree) (directory : Place) (path : Path) :
    Except (LoadError FileError) Config := do
  let bytes ← (tree.read directory path).mapError .unreadable
  (ofBytes bytes).mapError .unusable

def loadMessage (path : Path) : LoadError FileError → String
  | .unreadable fault => fault.message path
  | .unusable error => error.message

end ApiDocs.Config
