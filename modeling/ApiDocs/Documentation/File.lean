import ApiDocs.Documentation.Index
import ApiDocs.FileTree
import ApiDocs.Xml.Document

namespace ApiDocs.Documentation

/-! An index in the file that holds it. -/

inductive FileError where
  | xml (failure : Xml.Failure)
  | content (error : Error)
  deriving DecidableEq, Repr

def FileError.message : FileError → String
  | xml failure => failure.message
  | content error => error.message

def ofBytes (config : Config) (bytes : List UInt8) : Outcome Notice FileError Index :=
  (Outcome.ofExcept ((Xml.Element.ofBytes bytes).mapError .xml)).bind fun root =>
    (Index.build config root).mapError .content

def load (config : Config) (tree : FileTree) (directory : Place) (path : Path) :
    Outcome Notice (LoadError FileError) Index :=
  (Outcome.ofExcept ((tree.read directory path).mapError .unreadable)).bind fun bytes =>
    (ofBytes config bytes).mapError .unusable

def loadMessage (path : Path) : LoadError FileError → String
  | .unreadable fault => fault.messageOfReading "documentation file" path
  | .unusable error => error.message

end ApiDocs.Documentation
