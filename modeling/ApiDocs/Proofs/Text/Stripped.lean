import ApiDocs.Proofs.Text.Line

namespace ApiDocs.Text

/-! Stripped texts.  They have no blank at either end, so that one with any character in it has
a character that is not blank. -/

theorem dropWhile_append_of_head? {α : Type} {p : α → Bool} {before rest : List α}
    (hbefore : ∀ x ∈ before, p x = true) (hrest : ∀ x ∈ rest.head?, p x = false) :
    (before ++ rest).dropWhile p = rest := by
  rw [List.dropWhile_append_of_pos hbefore]
  cases rest with
  | nil => rfl
  | cons x more => exact List.dropWhile_cons_of_neg (by simp [hrest x rfl])

theorem isBlank_head?_dropWhile (cs : List Char) :
    ∀ c ∈ (cs.dropWhile isBlank).head?, isBlank c = false := by
  intro c hhead
  have hnot := List.head?_dropWhile_not isBlank cs
  rw [Option.mem_def.mp hhead] at hnot
  simpa using hnot

theorem isBlank_head?_stripChars (cs : List Char) :
    ∀ c ∈ (stripChars cs).head?, isBlank c = false := by
  intro c hhead
  obtain ⟨blanks, hdropped⟩ := List.rdropWhile_prefix isBlank (cs.dropWhile isBlank)
  apply isBlank_head?_dropWhile cs
  rw [← hdropped, ← stripChars_eq, List.head?_append, Option.mem_def.mp hhead]
  rfl

theorem isBlank_getLast?_stripChars (cs : List Char) :
    ∀ c ∈ (stripChars cs).reverse.head?, isBlank c = false := by
  rw [stripChars, List.reverse_reverse]
  exact isBlank_head?_dropWhile _

theorem stripChars_append {before middle after : List Char}
    (hbefore : ∀ c ∈ before, isBlank c = true) (hafter : ∀ c ∈ after, isBlank c = true)
    (hne : middle ≠ []) (hmiddle : ∀ c ∈ middle, isBlank c = false) :
    stripChars (before ++ middle ++ after) = middle := by
  have hstart : ∀ c ∈ (middle ++ after).head?, isBlank c = false := by
    intro c hhead
    rw [List.head?_append_of_ne_nil _ hne] at hhead
    exact hmiddle c (List.mem_of_mem_head? hhead)
  have hend : ∀ c ∈ middle.reverse.head?, isBlank c = false := by
    intro c hhead
    exact hmiddle c (List.mem_reverse.mp (List.mem_of_mem_head? hhead))
  have hblanks : ∀ c ∈ after.reverse, isBlank c = true := by simpa using hafter
  rw [stripChars, List.append_assoc, dropWhile_append_of_head? hbefore hstart,
    List.reverse_append, dropWhile_append_of_head? hblanks hend, List.reverse_reverse]

theorem stripChars_eq_nil_iff {cs : List Char} :
    stripChars cs = [] ↔ cs.all isBlank = true := by
  rw [stripChars_eq, List.rdropWhile_eq_nil_iff, List.all_eq_true]
  constructor
  · intro h
    rw [← List.dropWhile_eq_nil_iff]
    cases hdropped : cs.dropWhile isBlank with
    | nil => rfl
    | cons c rest =>
        have hblank := h c (hdropped ▸ List.mem_cons_self)
        have hnot := isBlank_head?_dropWhile cs c (by rw [hdropped]; rfl)
        rw [hnot] at hblank
        cases hblank
  · intro h c hmem
    exact h c ((List.dropWhile_suffix isBlank).subset hmem)

theorem isBlank_of_isDigit {c : Char} (h : c.isDigit = true) : isBlank c = false := by
  have hcode : 48 ≤ c.toNat ∧ c.toNat ≤ 57 := Char.isDigit_iff_toNat.mp h
  simp only [isBlank, Bool.or_eq_false_iff, Bool.and_eq_false_iff, decide_eq_false_iff_not,
    beq_eq_false_iff_ne]
  omega

end ApiDocs.Text
