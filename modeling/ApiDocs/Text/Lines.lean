import ApiDocs.Text.Blank

namespace ApiDocs.Text

/-! Lines with their ends, whatever ends them, and lines that are indented. -/

/-- The characters that end a line.  A carriage return together with the line
feed after it ends one line, not two. -/
def isLineBreak (c : Char) : Bool :=
  let code := c.toNat
  (0x0A ≤ code && code ≤ 0x0D) || (0x1C ≤ code && code ≤ 0x1E) ||
    code == 0x85 || code == 0x2028 || code == 0x2029

def lineStep (c : Char) (lines : List (List Char)) : List (List Char) :=
  match lines with
  | [] => [[c]]
  | line :: more =>
      if c = '\r' && line.head? == some '\n' then
        (c :: line) :: more
      else if isLineBreak c then
        [c] :: lines
      else
        (c :: line) :: more

/-- The lines of a text, each with the break that ends it.  The empty text has
no line, and there is no empty line after a final break. -/
def lines (cs : List Char) : List (List Char) :=
  cs.foldr lineStep []

def indentLine (line : List Char) : List Char :=
  if line.all isBlank then line else ' ' :: ' ' :: line

def indent (text : String) : String :=
  String.ofList ((lines text.toList).flatMap indentLine)

@[simp] theorem lines_nil : lines [] = [] := rfl

@[simp] theorem lines_cons (c : Char) (rest : List Char) :
    lines (c :: rest) = lineStep c (lines rest) := rfl

theorem flatten_lineStep (c : Char) (ls : List (List Char)) :
    (lineStep c ls).flatten = c :: ls.flatten := by
  unfold lineStep
  split
  · rfl
  · split
    · rfl
    · split <;> rfl

theorem flatten_lines (cs : List Char) : (lines cs).flatten = cs := by
  induction cs with
  | nil => rfl
  | cons c rest ih => rw [lines_cons, flatten_lineStep, ih]

@[simp] theorem toList_indent (text : String) :
    (indent text).toList = (lines text.toList).flatMap indentLine := by
  simp [indent]

end ApiDocs.Text
