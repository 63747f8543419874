import ApiDocs.Text.Blank

namespace ApiDocs.Text

/-! Indentation that is taken off. -/

/-- Removes exactly `width` leading spaces, or nothing when there are fewer. -/
def dropSpaces (width : Nat) (line : List Char) : List Char :=
  if line.take width = List.replicate width ' ' then line.drop width else line

def outdentChars (width : Nat) (cs : List Char) : List Char :=
  cs.foldr
    (fun c rest => if c = '\n' then '\n' :: dropSpaces width rest else c :: rest) []

/-- Prose and code carry the indentation of the file that they stand in.
Continuation lines lose `width` spaces of it, then both ends are stripped. -/
def fixIndentation (text : String) (width : Int) : String :=
  String.ofList (stripChars (outdentChars width.toNat text.toList))

@[simp] theorem dropSpaces_zero (line : List Char) : dropSpaces 0 line = line := by
  simp [dropSpaces]

@[simp] theorem outdentChars_nil (width : Nat) : outdentChars width [] = [] := rfl

@[simp] theorem outdentChars_cons (width : Nat) (c : Char) (rest : List Char) :
    outdentChars width (c :: rest) =
      if c = '\n' then
        '\n' :: dropSpaces width (outdentChars width rest)
      else
        c :: outdentChars width rest := rfl

@[simp] theorem outdentChars_zero (cs : List Char) : outdentChars 0 cs = cs := by
  induction cs with
  | nil => rfl
  | cons c rest ih =>
      by_cases h : c = '\n' <;> simp [h, ih]

theorem dropSpaces_newline (width : Nat) (rest : List Char) :
    dropSpaces width ('\n' :: rest) = '\n' :: rest := by
  cases width with
  | zero => rw [dropSpaces_zero]
  | succ width => simp [dropSpaces, List.replicate_succ]

theorem dropSpaces_replicate_append (width : Nat) (rest : List Char) :
    dropSpaces width (List.replicate width ' ' ++ rest) = rest := by
  simp [dropSpaces]

theorem outdentChars_replicate_append (column width : Nat) (rest : List Char) :
    outdentChars column (List.replicate width ' ' ++ rest) =
      List.replicate width ' ' ++ outdentChars column rest := by
  induction width with
  | zero => rfl
  | succ width ih => simp [List.replicate_succ, ih]

@[simp] theorem toList_fixIndentation (text : String) (width : Int) :
    (fixIndentation text width).toList =
      stripChars (outdentChars width.toNat text.toList) := by
  simp [fixIndentation]

theorem fixIndentation_of_nonpos (text : String) {width : Int} (h : width ≤ 0) :
    fixIndentation text width = strip text := by
  have : width.toNat = 0 := by omega
  simp [fixIndentation, strip, this]

end ApiDocs.Text
