import ApiDocs.Text.Lines
import Mathlib.Data.List.Forall2

namespace ApiDocs.Text

/-! Texts whose lines are indented.  Indenting a text keeps its lines apart as they were, so
it can be undone; and lines that are joined can be indented before or after. -/

theorem lineStep_append (c : Char) {first : List (List Char)} (hne : first ≠ [])
    (rest : List (List Char)) : lineStep c (first ++ rest) = lineStep c first ++ rest := by
  cases first with
  | nil => exact absurd rfl hne
  | cons line more =>
      simp only [lineStep, List.cons_append]
      split
      · rfl
      · split <;> rfl

theorem lineStep_of_not_break {c : Char} (hc : isLineBreak c = false) (line : List Char)
    (rest : List (List Char)) : lineStep c (line :: rest) = (c :: line) :: rest := by
  have hreturn : c ≠ '\r' := by
    rintro rfl
    exact absurd hc (by decide)
  simp [lineStep, hc, hreturn]

theorem lineStep_of_break {c : Char} {lines : List (List Char)} (hc : isLineBreak c = true)
    (h : c = '\r' → lines.head?.bind List.head? ≠ some '\n') :
    lineStep c lines = [c] :: lines := by
  cases lines with
  | nil => rfl
  | cons line rest =>
      have hnot : ¬ (c = '\r' ∧ line.head? = some '\n') := fun hboth => h hboth.1 hboth.2
      simp [lineStep, hc, hnot]

theorem lineStep_return {line : List Char} (h : line.head? = some '\n')
    (rest : List (List Char)) : lineStep '\r' (line :: rest) = ('\r' :: line) :: rest := by
  simp [lineStep, h]

theorem head_lines (cs : List Char) : (lines cs).head?.bind List.head? = cs.head? := by
  cases cs with
  | nil => rfl
  | cons c rest =>
      rw [lines_cons]
      unfold lineStep
      split
      · rfl
      · split
        · rfl
        · split <;> rfl

theorem ne_nil_of_lines_eq_cons {cs line : List Char} {more : List (List Char)}
    (h : lines cs = line :: more) : line ≠ [] := by
  rintro rfl
  have hhead := head_lines cs
  rw [h] at hhead
  cases cs with
  | nil => cases h
  | cons c rest => cases hhead

theorem lines_eq_nil_iff {cs : List Char} : lines cs = [] ↔ cs = [] := by
  constructor
  · intro h
    rw [← flatten_lines cs, h, List.flatten_nil]
  · rintro rfl
    rfl

theorem lines_append_of_not_break {before cs line : List Char} {rest : List (List Char)}
    (hbefore : ∀ c ∈ before, isLineBreak c = false) (h : lines cs = line :: rest) :
    lines (before ++ cs) = (before ++ line) :: rest := by
  induction before with
  | nil => exact h
  | cons c before ih =>
      rw [List.forall_mem_cons] at hbefore
      rw [List.cons_append, lines_cons, ih hbefore.2, lineStep_of_not_break hbefore.1]
      rfl

def MayFollow (rest after : List Char) : Prop :=
  (rest = [] → after = []) ∧ (after.head? = some '\n' → rest.head? = some '\n')

theorem exists_rest_of_lines {cs line : List Char} {more : List (List Char)}
    (h : lines cs = line :: more) :
    ∃ rest, cs = line ++ rest ∧ more = lines rest ∧
      ∀ after, MayFollow rest after → lines (line ++ after) = line :: lines after := by
  induction cs generalizing line more with
  | nil => cases h
  | cons c cs ih =>
      rw [lines_cons] at h
      have hhead := head_lines cs
      cases hcs : lines cs with
      | nil =>
          rw [hcs] at h
          obtain ⟨rfl, rfl⟩ := List.cons.inj h
          refine ⟨[], by simp [lines_eq_nil_iff.mp hcs], rfl, ?_⟩
          intro after hafter
          rw [hafter.1 rfl]
          rfl
      | cons first others =>
          obtain ⟨rest, rfl, rfl, hfirst⟩ := ih hcs
          rw [hcs] at h hhead
          by_cases hreturn : c = '\r' ∧ first.head? = some '\n'
          · obtain ⟨rfl, hnewline⟩ := hreturn
            rw [lineStep_return hnewline] at h
            obtain ⟨rfl, rfl⟩ := List.cons.inj h
            refine ⟨rest, rfl, rfl, ?_⟩
            intro after hafter
            rw [List.cons_append, lines_cons, hfirst after hafter, lineStep_return hnewline]
          cases hc : isLineBreak c with
          | true =>
              have hapart : c = '\r' → (first :: lines rest).head?.bind List.head? ≠ some '\n' :=
                fun heq hnewline => hreturn ⟨heq, hnewline⟩
              rw [lineStep_of_break hc hapart] at h
              obtain ⟨rfl, rfl⟩ := List.cons.inj h
              refine ⟨first ++ rest, rfl, hcs.symm, ?_⟩
              intro after hafter
              rw [List.singleton_append, lines_cons, lineStep_of_break hc]
              intro heq hnewline
              rw [head_lines] at hnewline
              exact hreturn ⟨heq, hhead.trans (hafter.2 hnewline)⟩
          | false =>
              rw [lineStep_of_not_break hc] at h
              obtain ⟨rfl, rfl⟩ := List.cons.inj h
              refine ⟨rest, rfl, rfl, ?_⟩
              intro after hafter
              rw [List.cons_append, lines_cons, hfirst after hafter, lineStep_of_not_break hc]

/-! Lines that are indented. -/

def indentChars (cs : List Char) : List Char :=
  (lines cs).flatMap indentLine

theorem indentLine_eq (line : List Char) :
    ∃ before, (∀ c ∈ before, isLineBreak c = false) ∧ indentLine line = before ++ line := by
  rw [indentLine]
  split
  · exact ⟨[], by simp, rfl⟩
  · exact ⟨[' ', ' '], by simp [isLineBreak], rfl⟩

theorem mayFollow_indentChars (rest : List Char) : MayFollow rest (indentChars rest) := by
  constructor
  · rintro rfl
    rfl
  · intro h
    rw [← head_lines]
    rw [indentChars] at h
    cases hlines : lines rest with
    | nil => simp [hlines] at h
    | cons line more =>
        rw [hlines, List.flatMap_cons, indentLine] at h
        split at h
        · rwa [List.head?_append_of_ne_nil _ (ne_nil_of_lines_eq_cons hlines)] at h
        · cases h

theorem lines_indentChars (cs : List Char) :
    lines (indentChars cs) = (lines cs).map indentLine := by
  rw [indentChars]
  induction hlines : lines cs generalizing cs with
  | nil => rfl
  | cons line more ih =>
      obtain ⟨rest, rfl, rfl, hline⟩ := exists_rest_of_lines hlines
      obtain ⟨before, hbefore, hindent⟩ := indentLine_eq line
      rw [List.flatMap_cons, List.map_cons, ← ih rest rfl, hindent, List.append_assoc]
      exact lines_append_of_not_break hbefore (hline _ (mayFollow_indentChars rest))

/-! Texts that are joined by a line feed. -/

theorem lines_newline_cons (cs : List Char) : lines ('\n' :: cs) = ['\n'] :: lines cs := by
  rw [lines_cons]
  cases lines cs <;> rfl

theorem lines_append_newline (cs rest : List Char) :
    ∃ earlier last, (lines cs = earlier ∧ last = [] ∨ lines cs = earlier ++ [last]) ∧
      lines (cs ++ '\n' :: rest) = earlier ++ (last ++ ['\n']) :: lines rest := by
  induction cs with
  | nil => exact ⟨[], [], .inl ⟨rfl, rfl⟩, lines_newline_cons rest⟩
  | cons c cs ih =>
      obtain ⟨earlier, last, hcs, hjoined⟩ := ih
      rw [List.cons_append, lines_cons, lines_cons, hjoined]
      cases earlier with
      | cons line more =>
          have hne : line :: more ≠ [] := List.cons_ne_nil line more
          refine ⟨lineStep c (line :: more), last, ?_, lineStep_append c hne _⟩
          rcases hcs with ⟨hcs, rfl⟩ | hcs
          · exact .inl ⟨by rw [hcs], rfl⟩
          · exact .inr (by rw [hcs, lineStep_append c hne])
      | nil =>
          rcases hcs with ⟨hcs, rfl⟩ | hcs
          · rw [hcs]
            cases hc : isLineBreak c with
            | true =>
                by_cases hreturn : c = '\r'
                · exact ⟨[], [c], .inr rfl, hreturn ▸ lineStep_return rfl (lines rest)⟩
                · exact ⟨[[c]], [], .inl ⟨rfl, rfl⟩,
                    lineStep_of_break hc fun heq => absurd heq hreturn⟩
            | false => exact ⟨[], [c], .inr rfl, lineStep_of_not_break hc ['\n'] (lines rest)⟩
          · have hlast : last ≠ [] := ne_nil_of_lines_eq_cons hcs
            have hhead : (last ++ ['\n']).head? = last.head? :=
              List.head?_append_of_ne_nil last hlast
            rw [hcs]
            by_cases hreturn : c = '\r' ∧ last.head? = some '\n'
            · obtain ⟨rfl, hnewline⟩ := hreturn
              refine ⟨[], '\r' :: last, .inr (lineStep_return hnewline []), ?_⟩
              exact lineStep_return (hhead.trans hnewline) (lines rest)
            · cases hc : isLineBreak c with
              | true =>
                  refine ⟨[[c]], last, .inr (lineStep_of_break hc ?_), lineStep_of_break hc ?_⟩
                  · exact fun heq hnewline => hreturn ⟨heq, hnewline⟩
                  · exact fun heq hnewline => hreturn ⟨heq, hhead.symm.trans hnewline⟩
              | false =>
                  refine ⟨[], c :: last, .inr (lineStep_of_not_break hc last []), ?_⟩
                  exact lineStep_of_not_break hc (last ++ ['\n']) (lines rest)

theorem indentLine_append_newline (line : List Char) :
    indentLine (line ++ ['\n']) = indentLine line ++ ['\n'] := by
  have hblank : isBlank '\n' = true := rfl
  simp only [indentLine, List.all_append, List.all_cons, hblank, List.all_nil, Bool.and_true]
  split <;> rfl

theorem indentChars_append_newline (cs rest : List Char) :
    indentChars (cs ++ '\n' :: rest) = indentChars cs ++ '\n' :: indentChars rest := by
  obtain ⟨earlier, last, hcs, hjoined⟩ := lines_append_newline cs rest
  have hlines : (lines cs).flatMap indentLine = earlier.flatMap indentLine ++ indentLine last := by
    rcases hcs with ⟨hcs, rfl⟩ | hcs
    · rw [hcs]
      exact (List.append_nil _).symm
    · rw [hcs, List.flatMap_append, List.flatMap_singleton]
  rw [indentChars, indentChars, indentChars, hjoined, hlines, List.flatMap_append,
    List.flatMap_cons, indentLine_append_newline]
  simp only [List.append_assoc, List.singleton_append]

theorem indentChars_intercalate (pieces : List (List Char)) :
    indentChars (['\n'].intercalate pieces) = ['\n'].intercalate (pieces.map indentChars) := by
  induction pieces with
  | nil => rfl
  | cons piece rest ih =>
      cases rest with
      | nil => simp only [List.intercalate_singleton, List.map_cons, List.map_nil]
      | cons next more =>
          rw [List.map_cons, List.map_cons, List.intercalate_cons_cons,
            List.intercalate_cons_cons, List.append_assoc, List.append_assoc,
            List.singleton_append, List.singleton_append, indentChars_append_newline, ih,
            List.map_cons]

theorem intercalate_map_indent (texts : List String) :
    "\n".intercalate (texts.map indent) = indent ("\n".intercalate texts) := by
  have hnewline : "\n".toList = ['\n'] := rfl
  have hindent : ∀ text, (indent text).toList = indentChars text.toList := toList_indent
  rw [← String.toList_inj, hindent, String.toList_intercalate, String.toList_intercalate,
    hnewline, indentChars_intercalate, List.map_map, List.map_map]
  simp only [Function.comp_def, hindent]

/-! Indenting undone. -/

def unindentLine (line : List Char) : List Char :=
  if line.all isBlank then
    line
  else
    match line with
    | ' ' :: ' ' :: rest => rest
    | _ => line

def unindent (text : String) : String :=
  String.ofList ((lines text.toList).flatMap unindentLine)

theorem unindentLine_indentLine (line : List Char) : unindentLine (indentLine line) = line := by
  unfold unindentLine indentLine
  by_cases hblank : line.all isBlank = true
  · simp only [if_pos hblank]
  · have hspace : isBlank ' ' = true := rfl
    have hspaces : ¬ (' ' :: ' ' :: line).all isBlank = true := by
      simpa only [List.all_cons, hspace, Bool.true_and] using hblank
    simp only [if_neg hblank, if_neg hspaces]

/-- How a text stands in another whose lines are those of the text, two columns further to
the right unless they are blank. -/
structure Indents (text indented : String) : Prop where
  lines : List.Forall₂
    (fun line shown =>
      ((∃ c ∈ line, isBlank c = false) → shown = ' ' :: ' ' :: line) ∧
        ((∀ c ∈ line, isBlank c = true) → shown = line))
    (lines text.toList) (lines indented.toList)
  unindent : unindent indented = text

theorem indentLine_of_blank {line : List Char} (h : ∀ c ∈ line, isBlank c = true) :
    indentLine line = line := by
  rw [indentLine, if_pos (List.all_eq_true.mpr h)]

theorem indentLine_of_written {line : List Char} (h : ∃ c ∈ line, isBlank c = false) :
    indentLine line = ' ' :: ' ' :: line := by
  obtain ⟨c, hmem, hc⟩ := h
  rw [indentLine, if_neg]
  intro hall
  rw [List.all_eq_true.mp hall c hmem] at hc
  cases hc

theorem indents_indent (text : String) : Indents text (indent text) := by
  have hindent : (indent text).toList = indentChars text.toList := toList_indent text
  have hlines : lines (indent text).toList = (lines text.toList).map indentLine := by
    rw [hindent, lines_indentChars]
  constructor
  · rw [hlines, List.forall₂_map_right_iff, List.forall₂_same]
    exact fun line _ => ⟨indentLine_of_written, indentLine_of_blank⟩
  · have hundone : (lines text.toList).flatMap (fun line => unindentLine (indentLine line)) =
        text.toList := by
      simp only [unindentLine_indentLine, List.flatMap_id', flatten_lines]
    rw [unindent, hlines, List.flatMap_map, hundone, String.ofList_toList]

theorem indentChars_eq_nil_iff {cs : List Char} : indentChars cs = [] ↔ cs = [] := by
  rw [← lines_eq_nil_iff, lines_indentChars, List.map_eq_nil_iff, lines_eq_nil_iff]

theorem indent_eq_empty_iff {text : String} : indent text = "" ↔ text = "" := by
  have hindent : (indent text).toList = indentChars text.toList := toList_indent text
  rw [← String.toList_eq_nil_iff, hindent, indentChars_eq_nil_iff, String.toList_eq_nil_iff]

end ApiDocs.Text
