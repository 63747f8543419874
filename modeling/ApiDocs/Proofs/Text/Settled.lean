import ApiDocs.Proofs.Text.Outdent

namespace ApiDocs.Text

/-! Text that a second correction of its indentation leaves as it is.  No pass puts anything in.
So a pass over stripped text changes nothing exactly when no line behind the first has as many
spaces as the pass takes off. -/

/-! One line. -/

theorem dropSpaces_eq_self_iff {width : Nat} (hwidth : 0 < width) (line : List Char) :
    dropSpaces width line = line ↔ leadingSpaces line < width := by
  constructor
  · intro hkept
    by_contra hspaces
    obtain ⟨rest, rfl⟩ := replicate_prefix_of_le_leadingSpaces (Nat.le_of_not_lt hspaces)
    rw [dropSpaces_replicate_append] at hkept
    have hlength := congrArg List.length hkept
    rw [List.length_append, List.length_replicate] at hlength
    omega
  · intro hspaces
    apply dropSpaces_of_not_indented
    rw [← le_leadingSpaces_iff]
    exact Nat.not_le_of_lt hspaces

theorem leadingSpaces_dropSpaces_lt {width : Nat} {line : List Char}
    (h : leadingSpaces line < 2 * width) : leadingSpaces (dropSpaces width line) < width := by
  by_cases hindented : width ≤ leadingSpaces line
  · rw [leadingSpaces_dropSpaces hindented]
    omega
  · have hnot := Nat.lt_of_not_le hindented
    rwa [(dropSpaces_eq_self_iff (by omega) line).mpr hnot]

/-! A pass leaves characters out, and puts none in. -/

theorem dropSpaces_sublist (width : Nat) (line : List Char) :
    (dropSpaces width line).Sublist line := by
  rw [dropSpaces]
  split
  · exact List.drop_sublist width line
  · exact List.Sublist.refl line

theorem outdentChars_sublist (width : Nat) (cs : List Char) :
    (outdentChars width cs).Sublist cs := by
  induction cs with
  | nil => exact List.Sublist.refl []
  | cons c rest ih =>
      rw [outdentChars_cons]
      split
      · next h =>
          rw [h]
          exact ((dropSpaces_sublist width _).trans ih).cons_cons '\n'
      · exact ih.cons_cons c

theorem stripChars_sublist (cs : List Char) : (stripChars cs).Sublist cs := by
  rw [stripChars_eq]
  exact (List.rdropWhile_prefix isBlank _).sublist.trans (List.dropWhile_sublist isBlank)

theorem stripChars_stripChars (cs : List Char) : stripChars (stripChars cs) = stripChars cs := by
  have hstart : (stripChars cs).dropWhile isBlank = stripChars cs := by
    obtain ⟨blanks, hdropped⟩ := List.rdropWhile_prefix isBlank (cs.dropWhile isBlank)
    rw [← stripChars_eq] at hdropped
    cases hstrip : stripChars cs with
    | nil => rfl
    | cons c rest =>
        have hnot := List.head?_dropWhile_not isBlank cs
        rw [← hdropped, hstrip, List.cons_append] at hnot
        exact List.dropWhile_cons_of_neg (by simpa using hnot)
  rw [stripChars_eq, hstart, stripChars_eq, List.rdropWhile_idempotent]

/-! All lines. -/

theorem outdentChars_eq_self_iff {width : Nat} (hwidth : 0 < width) (cs : List Char) :
    outdentChars width cs = cs ↔
      ∀ line ∈ (splitChars '\n' cs).tail, leadingSpaces line < width := by
  obtain ⟨first, later, hsplit⟩ := List.exists_cons_of_ne_nil (splitChars_ne_nil '\n' cs)
  have hlines : splitChars '\n' (outdentChars width cs) =
      first :: later.map (dropSpaces width) := splitChars_outdentChars hsplit
  have hlater : outdentChars width cs = cs ↔ later.map (dropSpaces width) = later := by
    constructor
    · intro h
      rw [h, hsplit] at hlines
      exact (List.cons.inj hlines).2.symm
    · intro h
      rw [← intercalate_splitChars '\n' (outdentChars width cs), hlines, h, ← hsplit,
        intercalate_splitChars]
  have hkept : later.map (dropSpaces width) = later ↔
      ∀ line ∈ later, dropSpaces width line = line := by
    nth_rewrite 2 [← List.map_id later]
    exact List.map_inj_left
  rw [hlater, hkept, hsplit, List.tail_cons]
  exact forall₂_congr fun line _ => dropSpaces_eq_self_iff hwidth line

theorem stripChars_outdentChars_eq_self_iff (width : Nat) {cs : List Char}
    (hstripped : stripChars cs = cs) :
    stripChars (outdentChars width cs) = cs ↔ outdentChars width cs = cs := by
  constructor
  · intro h
    have hsublist := stripChars_sublist (outdentChars width cs)
    rw [h] at hsublist
    exact (outdentChars_sublist width cs).antisymm hsublist
  · intro h
    rw [h, hstripped]

theorem fixIndentation_fixIndentation_eq_iff (text : String) (width : Int) :
    fixIndentation (fixIndentation text width) width = fixIndentation text width ↔
      width ≤ 0 ∨ ∀ line ∈ (splitChars '\n' (fixIndentation text width).toList).tail,
        (leadingSpaces line : Int) < width := by
  have hstripped : stripChars (fixIndentation text width).toList =
      (fixIndentation text width).toList := by
    rw [toList_fixIndentation, stripChars_stripChars]
  rw [← String.toList_inj, toList_fixIndentation,
    stripChars_outdentChars_eq_self_iff width.toNat hstripped]
  rcases Int.lt_or_le 0 width with hwidth | hwidth
  · rw [outdentChars_eq_self_iff (by omega), or_iff_right (Int.not_le_of_gt hwidth)]
    exact forall₂_congr fun line _ => by omega
  · rw [Int.toNat_of_nonpos hwidth, outdentChars_zero]
    exact iff_of_true rfl (.inl hwidth)

/-! Lines of the source.  A line that is left behind the first stands behind the first in the
source too, and no pass gives it more spaces than it has there. -/

theorem mem_tail_of_dropWhile {cs line : List Char}
    (h : line ∈ (splitChars '\n' (cs.dropWhile isBlank)).tail) :
    line ∈ (splitChars '\n' cs).tail := by
  obtain ⟨before, first, later, hsplit, -, -, hstart⟩ := splitChars_dropWhile cs
  rw [hstart, List.tail_cons] at h
  rw [hsplit]
  cases before with
  | nil => exact h
  | cons blank blanks => exact List.mem_append_right blanks (List.mem_cons_of_mem first h)

theorem exists_mem_tail_of_rdropWhile {cs line : List Char}
    (h : line ∈ (splitChars '\n' (cs.rdropWhile isBlank)).tail) :
    ∃ other ∈ (splitChars '\n' cs).tail, line <+: other := by
  obtain ⟨earlier, last, after, hsplit, -, -, hend⟩ := splitChars_rdropWhile cs
  rw [hend] at h
  rw [hsplit]
  cases earlier with
  | nil => cases h
  | cons first between =>
      rw [List.cons_append, List.tail_cons, List.mem_append, List.mem_singleton] at h
      rw [List.cons_append, List.tail_cons]
      rcases h with hmem | rfl
      · exact ⟨line, List.mem_append_left _ hmem, List.prefix_refl line⟩
      · exact ⟨last, by simp, List.rdropWhile_prefix isBlank last⟩

theorem leadingSpaces_lt_of_shallow {width : Nat} {cs : List Char}
    (hshallow : ∀ line ∈ (splitChars '\n' cs).tail, leadingSpaces line < 2 * width) :
    ∀ line ∈ (splitChars '\n' (stripChars (outdentChars width cs))).tail,
      leadingSpaces line < width := by
  intro line hmem
  obtain ⟨other, hother, hprefix⟩ := exists_mem_tail_of_rdropWhile hmem
  obtain ⟨first, later, hsplit⟩ := List.exists_cons_of_ne_nil (splitChars_ne_nil '\n' cs)
  have houtdented := mem_tail_of_dropWhile hother
  rw [splitChars_outdentChars hsplit, List.tail_cons, List.mem_map] at houtdented
  obtain ⟨source, hsource, rfl⟩ := houtdented
  rw [hsplit, List.tail_cons] at hshallow
  calc
    leadingSpaces line ≤ leadingSpaces (dropSpaces width source) :=
      leadingSpaces_le_of_prefix hprefix
    _ < width := leadingSpaces_dropSpaces_lt (hshallow source hsource)

/-- A second pass changes nothing exactly when the first one has left no line behind the first
with the spaces that a pass takes off, and so for every source whose lines have fewer than twice
as many. -/
theorem fixIndentation_settles (text : String) (width : Int) :
    (fixIndentation (fixIndentation text width) width = fixIndentation text width ↔
      width ≤ 0 ∨ ∀ line ∈ (splitChars '\n' (fixIndentation text width).toList).tail,
        (leadingSpaces line : Int) < width) ∧
    ((∀ line ∈ (splitChars '\n' text.toList).tail, (leadingSpaces line : Int) < 2 * width) →
      fixIndentation (fixIndentation text width) width = fixIndentation text width) := by
  refine ⟨fixIndentation_fixIndentation_eq_iff text width, ?_⟩
  intro hshallow
  rw [fixIndentation_fixIndentation_eq_iff]
  rcases Int.lt_or_le 0 width with hwidth | hwidth
  · right
    have hnat : ∀ line ∈ (splitChars '\n' text.toList).tail,
        leadingSpaces line < 2 * width.toNat := by
      intro line hmem
      have hline := hshallow line hmem
      omega
    intro line hmem
    rw [toList_fixIndentation] at hmem
    have hline := leadingSpaces_lt_of_shallow hnat line hmem
    omega
  · exact .inl hwidth

/-- Blank lines at both ends, and lines with more spaces and with fewer than a pass takes off. -/
theorem fixIndentation_settles_of_shallow :
    let text := "\n  \n        a\n             b\n      c \n    d  \n  "
    (∀ line ∈ (splitChars '\n' text.toList).tail, (leadingSpaces line : Int) < 2 * 8) ∧
      fixIndentation text 8 = "a\n     b\n      c \n    d" ∧
      fixIndentation (fixIndentation text 8) 8 = fixIndentation text 8 := by
  intro text
  have hshallow : ∀ line ∈ (splitChars '\n' text.toList).tail,
      (leadingSpaces line : Int) < 2 * 8 := by decide
  exact ⟨hshallow, by decide, (fixIndentation_settles text 8).2 hshallow⟩

example :
    fixIndentation "a\n        b" 4 = "a\n    b" ∧ fixIndentation "a\n    b" 4 = "a\nb" := by
  decide

end ApiDocs.Text
