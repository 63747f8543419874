namespace ApiDocs.Text

/-! Line ends of all three kinds as one. -/

/-- Adds a character to the text read so far, whose last character comes first.
A carriage return, alone or with the line feed after it, becomes one line feed. -/
def newlineStep (read : List Char) (afterReturn : Bool) (c : Char) : List Char × Bool :=
  if c = '\r' then
    ('\n' :: read, true)
  else if c = '\n' && afterReturn then
    (read, false)
  else
    (c :: read, false)

def normalizeNewlines (cs : List Char) : List Char :=
  (cs.foldl (fun (read, afterReturn) c => newlineStep read afterReturn c) ([], false)).1.reverse

@[simp] theorem normalizeNewlines_nil : normalizeNewlines [] = [] := rfl

end ApiDocs.Text
