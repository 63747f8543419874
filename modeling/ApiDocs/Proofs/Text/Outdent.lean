import ApiDocs.Text.Indentation
import ApiDocs.Proofs.Text.Line
import Mathlib.Data.List.Forall2

namespace ApiDocs.Text

/-! Indentation that is taken off by replacement.  To replace every newline that has `width`
spaces behind it by a newline is to take `width` spaces off every line but the first that
starts with as many. -/

def leadingSpaces (line : List Char) : Nat :=
  (line.takeWhile (· = ' ')).length

/-- Replaces what reads `first :: others`, found from left to right and never in what was
found before, by `new`. -/
def replaceAll (first : Char) (others new : List Char) : List Char → List Char
  | [] => []
  | c :: rest =>
      if c = first ∧ others <+: rest then
        new ++ replaceAll first others new (rest.drop others.length)
      else
        c :: replaceAll first others new rest
termination_by cs => cs.length
decreasing_by
  · simp only [List.length_drop, List.length_cons]
    omega
  · simp

/-- A line that starts with `width` spaces loses them, and any other one stays as it is. -/
def LosesSpaces (width : Nat) (before after : List Char) : Prop :=
  before = List.replicate width ' ' ++ after ∨
    ¬ List.replicate width ' ' <+: before ∧ after = before

/-- A text without `width` spaces of indentation, as a replacement and by its lines. -/
structure Outdents (width : Nat) (before after : List Char) : Prop where
  replaced : after = replaceAll '\n' (List.replicate width ' ') ['\n'] before
  lines : ∃ first later others, splitChars '\n' before = first :: later ∧
    List.Forall₂ (LosesSpaces width) later others ∧
    after = ['\n'].intercalate (first :: others) ∧ splitChars '\n' after = first :: others
  nonspaces : after.filter (· ≠ ' ') = before.filter (· ≠ ' ')

/-- How indentation is corrected: line by line, and then by stripping. -/
structure LineByLine (text : String) (width : Int) : Prop where
  unindented : width ≤ 0 → fixIndentation text width = strip text
  indented : 0 < width → ∃ outdented, Outdents width.toNat text.toList outdented ∧
    fixIndentation text width = strip (String.ofList outdented) ∧
    StripsEnds (splitChars '\n' outdented) (splitChars '\n' (fixIndentation text width).toList)

/-! Lines that lose their spaces. -/

theorem dropSpaces_of_not_indented {width : Nat} {line : List Char}
    (h : ¬ List.replicate width ' ' <+: line) : dropSpaces width line = line := by
  rw [dropSpaces, if_neg]
  intro htake
  exact h (htake ▸ List.take_prefix width line)

theorem losesSpaces_dropSpaces (width : Nat) (line : List Char) :
    LosesSpaces width line (dropSpaces width line) := by
  by_cases h : List.replicate width ' ' <+: line
  · obtain ⟨rest, rfl⟩ := h
    exact .inl (by rw [dropSpaces_replicate_append])
  · exact .inr ⟨h, dropSpaces_of_not_indented h⟩

theorem leadingSpaces_replicate_append (width : Nat) (line : List Char) :
    leadingSpaces (List.replicate width ' ' ++ line) = width + leadingSpaces line := by
  rw [leadingSpaces, List.takeWhile_append_of_pos]
  · rw [List.length_append, List.length_replicate, leadingSpaces]
  · intro c hmem
    exact decide_eq_true (List.eq_of_mem_replicate hmem)

theorem replicate_prefix_of_le_leadingSpaces {width : Nat} {line : List Char}
    (h : width ≤ leadingSpaces line) : List.replicate width ' ' <+: line := by
  induction width generalizing line with
  | zero => exact List.nil_prefix
  | succ width ih =>
      cases line with
      | nil => exact absurd h (by simp [leadingSpaces])
      | cons c rest =>
          by_cases hc : c = ' '
          · rw [leadingSpaces, List.takeWhile_cons_of_pos (by simpa using hc),
              List.length_cons] at h
            rw [List.replicate_succ, hc, List.cons_prefix_cons]
            exact ⟨rfl, ih (Nat.le_of_succ_le_succ h)⟩
          · rw [leadingSpaces, List.takeWhile_cons_of_neg (by simpa using hc)] at h
            exact absurd h (by simp)

theorem leadingSpaces_dropSpaces {width : Nat} {line : List Char}
    (h : width ≤ leadingSpaces line) :
    leadingSpaces (dropSpaces width line) = leadingSpaces line - width := by
  obtain ⟨rest, rfl⟩ := replicate_prefix_of_le_leadingSpaces h
  rw [dropSpaces_replicate_append, leadingSpaces_replicate_append, Nat.add_sub_cancel_left]

theorem le_leadingSpaces_iff (width : Nat) (line : List Char) :
    width ≤ leadingSpaces line ↔ List.replicate width ' ' <+: line := by
  constructor
  · exact replicate_prefix_of_le_leadingSpaces
  · rintro ⟨rest, rfl⟩
    rw [leadingSpaces_replicate_append]
    exact Nat.le_add_right width _

theorem leadingSpaces_le_of_prefix {line other : List Char} (h : line <+: other) :
    leadingSpaces line ≤ leadingSpaces other := by
  rw [le_leadingSpaces_iff]
  exact (replicate_prefix_of_le_leadingSpaces (le_refl _)).trans h

theorem filter_dropSpaces (width : Nat) (line : List Char) :
    (dropSpaces width line).filter (· ≠ ' ') = line.filter (· ≠ ' ') := by
  rcases losesSpaces_dropSpaces width line with hline | ⟨-, hline⟩
  · conv_rhs => rw [hline]
    simp
  · rw [hline]

theorem filter_outdentChars (width : Nat) (cs : List Char) :
    (outdentChars width cs).filter (· ≠ ' ') = cs.filter (· ≠ ' ') := by
  induction cs with
  | nil => rfl
  | cons c rest ih =>
      rw [outdentChars_cons]
      split
      · next h => rw [h, List.filter_cons, List.filter_cons, filter_dropSpaces, ih]
      · rw [List.filter_cons, List.filter_cons, ih]

theorem replicate_prefix_outdentChars_iff (count width : Nat) (cs : List Char) :
    List.replicate count ' ' <+: outdentChars width cs ↔ List.replicate count ' ' <+: cs := by
  induction count generalizing cs with
  | zero => simp
  | succ count ih =>
      cases cs with
      | nil => rfl
      | cons c rest =>
          rw [outdentChars_cons, List.replicate_succ]
          split
          · next h => simp [h]
          · rw [List.cons_prefix_cons, List.cons_prefix_cons, ih]

theorem replaceAll_eq_outdentChars (width : Nat) (cs : List Char) :
    replaceAll '\n' (List.replicate width ' ') ['\n'] cs = outdentChars width cs := by
  fun_induction replaceAll '\n' (List.replicate width ' ') ['\n'] cs with
  | case1 => rfl
  | case2 c rest h ih =>
      obtain ⟨rfl, line, rfl⟩ := h
      rw [List.length_replicate, List.drop_left' List.length_replicate] at ih
      rw [List.length_replicate, List.drop_left' List.length_replicate, ih, outdentChars_cons,
        if_pos rfl, outdentChars_replicate_append, dropSpaces_replicate_append]
      rfl
  | case3 c rest h ih =>
      rw [ih, outdentChars_cons]
      split
      · next hc =>
          have hrest : ¬ List.replicate width ' ' <+: outdentChars width rest := by
            rw [replicate_prefix_outdentChars_iff]
            exact fun hspaces => h ⟨hc, hspaces⟩
          rw [hc, dropSpaces_of_not_indented hrest]
      · rfl

theorem splitChars_dropSpaces {width : Nat} {cs first : List Char} {later : List (List Char)}
    (hsplit : splitChars '\n' cs = first :: later) :
    splitChars '\n' (dropSpaces width cs) = dropSpaces width first :: later := by
  by_cases h : List.replicate width ' ' <+: cs
  · obtain ⟨rest, rfl⟩ := h
    obtain ⟨line, lines, hrest⟩ := List.exists_cons_of_ne_nil (splitChars_ne_nil '\n' rest)
    have hspaces : '\n' ∉ List.replicate width ' ' := by
      rw [List.mem_replicate]
      exact fun hmem => absurd hmem.2 (by decide)
    rw [splitChars_append_of_not_mem hspaces hrest] at hsplit
    obtain ⟨rfl, rfl⟩ := List.cons.inj hsplit
    rw [dropSpaces_replicate_append, dropSpaces_replicate_append, hrest]
  · -- The spaces would be those of the text, which starts with its first line.
    have hfirst : ¬ List.replicate width ' ' <+: first := by
      intro hspaces
      have htext := intercalate_splitChars '\n' cs
      rw [hsplit] at htext
      refine h (hspaces.trans ?_)
      rw [← htext]
      cases later with
      | nil => simp
      | cons line lines =>
          rw [List.intercalate_cons_cons, List.append_assoc]
          exact List.prefix_append _ _
    rw [dropSpaces_of_not_indented h, dropSpaces_of_not_indented hfirst, hsplit]

theorem splitChars_outdentChars {width : Nat} {cs first : List Char}
    {later : List (List Char)} (hsplit : splitChars '\n' cs = first :: later) :
    splitChars '\n' (outdentChars width cs) = first :: later.map (dropSpaces width) := by
  induction cs generalizing first later with
  | nil =>
      obtain ⟨rfl, rfl⟩ := List.cons.inj hsplit
      rfl
  | cons c rest ih =>
      obtain ⟨line, lines, hrest⟩ := List.exists_cons_of_ne_nil (splitChars_ne_nil '\n' rest)
      rw [outdentChars_cons]
      split
      · next h =>
          rw [h, splitChars_cons_self, hrest] at hsplit
          obtain ⟨rfl, rfl⟩ := List.cons.inj hsplit
          rw [splitChars_cons_self, splitChars_dropSpaces (ih hrest), List.map_cons]
      · next h =>
          rw [splitChars_cons_of_ne h hrest] at hsplit
          obtain ⟨rfl, rfl⟩ := List.cons.inj hsplit
          exact splitChars_cons_of_ne h (ih hrest)

theorem outdents_outdentChars (width : Nat) (cs : List Char) :
    Outdents width cs (outdentChars width cs) where
  replaced := (replaceAll_eq_outdentChars width cs).symm
  lines := by
    obtain ⟨first, later, hsplit⟩ := List.exists_cons_of_ne_nil (splitChars_ne_nil '\n' cs)
    have hlines : splitChars '\n' (outdentChars width cs) =
        first :: later.map (dropSpaces width) := splitChars_outdentChars hsplit
    refine ⟨first, later, later.map (dropSpaces width), hsplit, ?_, ?_, hlines⟩
    · rw [List.forall₂_map_right_iff, List.forall₂_same]
      exact fun line _ => losesSpaces_dropSpaces width line
    · rw [← hlines, intercalate_splitChars]
  nonspaces := filter_outdentChars width cs

/-- Correcting indentation never looks beyond a line: every line but the first loses its
indentation as far as it goes, and what is left is stripped. -/
theorem lineByLine_fixIndentation (text : String) (width : Int) : LineByLine text width where
  unindented := fixIndentation_of_nonpos text
  indented := by
    intro _
    refine ⟨_, outdents_outdentChars width.toNat text.toList, ?_, ?_⟩
    · rw [strip, String.toList_ofList, fixIndentation]
    · rw [toList_fixIndentation]
      exact stripsEnds_splitChars _

example : fixIndentation "\n    a\n      b\n  c\n\td\n\n    " 4 = "a\n  b\n  c\n\td" := by
  decide

end ApiDocs.Text
