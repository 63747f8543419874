import ApiDocs.Proofs.Command.Effect
import ApiDocs.Proofs.Metadata.Loading
import ApiDocs.Proofs.Xml.Encoding

namespace ApiDocs

/-! How runs end.  A run gives an answer, with a code and a last word, unless a failure cuts it
short that it does not answer for; those are few, and each has its cause in one of the files or
in the command line. -/

namespace Metadata

/-- What is wrong with metadata that no part of the program foresees: a scalar that says what it
is and then is not, or a reference that has no end. -/
inductive Unforeseen (bytes : List UInt8) : FileError → Prop where
  | scalar {fault : Yaml.Fault} (hfault : valueOfBytes bytes = .error (.yaml fault))
      (hunforeseen : fault.isUnforeseen = true) : Unforeseen bytes (.yaml fault)
  | endless {document : Value} (hvalue : valueOfBytes bytes = .ok document)
      (hendless : (readDocument document).result = .error .endless) :
      Unforeseen bytes (.content .endless)

theorem Unforeseen.isUnforeseen {bytes : List UInt8} {error : FileError}
    (h : Unforeseen bytes error) : error.isUnforeseen = true := by
  cases h with
  | scalar _ hunforeseen => exact hunforeseen
  | endless => rfl

def fault? (bytes : List UInt8) : Option Yaml.Fault :=
  match valueOfBytes bytes with
  | .error (.yaml fault) => some fault
  | _ => none

end Metadata

namespace Command

variable {tree : FileTree} {directory : Place}

namespace Request

section Told

variable {request : Request}
  (htold : ∀ bytes, tree.read directory (.ofPlace (request.metadataPlace directory)) =
    .ok bytes → Metadata.Told bytes)
include htold

end Told

end Request

end Command

end ApiDocs
