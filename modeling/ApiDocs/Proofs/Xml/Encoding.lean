import ApiDocs.Outcome
import ApiDocs.Xml.Document

namespace ApiDocs.Xml

/-! Documents that name their encoding.  Some names end the reading of a document in a way of
their own; whatever else is wrong is reported with its line. -/

def Failure.isMalformed : Failure → Bool
  | malformed _ => true
  | _ => false

namespace Encoding

end Encoding

variable {failure : Failure}

end ApiDocs.Xml
