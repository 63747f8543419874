namespace ApiDocs.Text

/-! The characters that count as blank. -/

/-- The white space of Unicode together with the four information separators
U+001C to U+001F.  Zero-width characters are not blank. -/
def isBlank (c : Char) : Bool :=
  let code := c.toNat
  (0x09 ≤ code && code ≤ 0x0D) || (0x1C ≤ code && code ≤ 0x20) ||
    code == 0x85 || code == 0xA0 || code == 0x1680 ||
    (0x2000 ≤ code && code ≤ 0x200A) || code == 0x2028 || code == 0x2029 ||
    code == 0x202F || code == 0x205F || code == 0x3000

def stripChars (cs : List Char) : List Char :=
  ((cs.dropWhile isBlank).reverse.dropWhile isBlank).reverse

def strip (text : String) : String :=
  String.ofList (stripChars text.toList)

def allBlank (text : String) : Bool :=
  text.toList.all isBlank

@[simp] theorem toList_strip (text : String) :
    (strip text).toList = stripChars text.toList := by
  simp [strip]

@[simp] theorem stripChars_nil : stripChars [] = [] := rfl

end ApiDocs.Text
