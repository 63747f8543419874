import ApiDocs.Text.Newline
import ApiDocs.Yaml.Construction

namespace ApiDocs.Yaml

/-! Documents: a single node and the value that it denotes. -/

def isAllowed (c : Char) : Bool :=
  let code := c.toNat
  code = 0x09 || code = 0x0A || code = 0x0D || (0x20 ≤ code && code ≤ 0x7E) ||
    code = 0x85 || (0xA0 ≤ code && code ≤ 0xFFFD) || 0x10000 ≤ code

/-- The value of the document in a text; a text without one has the value null. -/
def readDocument (text : List Char) : Except Fault Value := do
  if !text.all isAllowed then
    .error .malformed
  else
    match ← Node.ofTokens (Token.ofText (Text.normalizeNewlines text)) with
    | some graph => graph.toValue
    | none => .ok .null

end ApiDocs.Yaml
