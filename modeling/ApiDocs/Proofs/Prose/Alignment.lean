import ApiDocs.Prose
import ApiDocs.Proofs.Text.Outdent

namespace ApiDocs

/-! Code and its margins.  A block of code loses the indentation of the parent, but its first
line loses all of its own: the lines keep their distances exactly when that line stands at the
column of the parent. -/

namespace Text

def writtenLines (lines : List (List Char)) : List (List Char) :=
  lines.filter fun line => !line.all isBlank

/-- How far the lines of a text are indented that are not blank. -/
def margins (cs : List Char) : List Nat :=
  (writtenLines (splitChars '\n' cs)).map leadingSpaces

/-- Any two lines keep the distance of their margins. -/
def KeepsAlignment (before after : List Nat) : Prop :=
  after.length = before.length ∧
    (before.zip after).Pairwise fun line other =>
      (other.2 : Int) - line.2 = other.1 - line.1

instance decidableKeepsAlignment (before after : List Nat) :
    Decidable (KeepsAlignment before after) :=
  inferInstanceAs (Decidable (_ ∧ _))

/-- Margins of lines that lose `width` spaces, before the first line loses the others too. -/
structure Realigns (width : Nat) (before after : List Nat) : Prop where
  length : after.length = before.length
  first : ∀ margin ∈ after.head?, margin = 0
  later : after.tail = before.tail.map (· - width)
  keepsLater : KeepsAlignment before.tail after.tail
  keeps_iff : KeepsAlignment before after ↔ before.tail = [] ∨ before.head? = some width

/-! Margins of a text that loses indentation. -/

theorem all_isBlank_dropSpaces (width : Nat) (line : List Char) :
    (dropSpaces width line).all isBlank = line.all isBlank := by
  rcases losesSpaces_dropSpaces width line with hline | ⟨-, hline⟩
  · have hspace : isBlank ' ' = true := by decide
    conv_rhs => rw [hline]
    simp [hspace]
  · rw [hline]

theorem margins_outdentChars {width : Nat} {cs : List Char} (hstart : cs.head? = some '\n')
    (h : ∀ margin ∈ margins cs, width ≤ margin) :
    margins (outdentChars width cs) = (margins cs).map (· - width) := by
  obtain ⟨rest, rfl⟩ := List.head?_eq_some_iff.mp hstart
  have hlines : splitChars '\n' ('\n' :: rest) = [] :: splitChars '\n' rest :=
    splitChars_cons_self '\n' rest
  have hempty : writtenLines ([] :: splitChars '\n' rest) =
      writtenLines (splitChars '\n' rest) := rfl
  have hwritten : writtenLines ([] :: (splitChars '\n' rest).map (dropSpaces width)) =
      (writtenLines (splitChars '\n' rest)).map (dropSpaces width) := by
    rw [writtenLines, List.filter_cons_of_neg (by simp), List.filter_map]
    congr 1
    apply List.filter_congr
    intro line _
    rw [Function.comp_apply, all_isBlank_dropSpaces]
  have hmargins : margins ('\n' :: rest) =
      (writtenLines (splitChars '\n' rest)).map leadingSpaces := by
    rw [margins, hlines, hempty]
  rw [hmargins] at h ⊢
  rw [margins, splitChars_outdentChars hlines, hwritten, List.map_map, List.map_map]
  apply List.map_congr_left
  intro line hmem
  exact leadingSpaces_dropSpaces (h _ (List.mem_map_of_mem hmem))

/-! Margins of a text that is stripped. -/

theorem writtenLines_append (lines others : List (List Char)) :
    writtenLines (lines ++ others) = writtenLines lines ++ writtenLines others :=
  List.filter_append _ _

theorem writtenLines_of_blank {lines : List (List Char)}
    (h : ∀ line ∈ lines, line.all isBlank = true) : writtenLines lines = [] := by
  rw [writtenLines, List.filter_eq_nil_iff]
  intro line hmem
  simp [h line hmem]

theorem writtenLines_cons_of_blank {line : List Char} (h : line.all isBlank = true)
    (lines : List (List Char)) : writtenLines (line :: lines) = writtenLines lines := by
  rw [writtenLines, List.filter_cons_of_neg (by simp [h]), writtenLines]

theorem writtenLines_cons_of_written {line : List Char} (h : line.all isBlank = false)
    (lines : List (List Char)) :
    writtenLines (line :: lines) = line :: writtenLines lines := by
  rw [writtenLines, List.filter_cons_of_pos (by simp [h]), writtenLines]

theorem all_isBlank_dropWhile (line : List Char) :
    (line.dropWhile isBlank).all isBlank = line.all isBlank := by
  conv_rhs => rw [← List.takeWhile_append_dropWhile (p := isBlank) (l := line)]
  rw [List.all_append, List.all_takeWhile, Bool.true_and]

theorem leadingSpaces_dropWhile (line : List Char) :
    leadingSpaces (line.dropWhile isBlank) = 0 := by
  rw [leadingSpaces]
  cases hline : line.dropWhile isBlank with
  | nil => rfl
  | cons c rest =>
      have hnot := List.head?_dropWhile_not isBlank line
      rw [hline] at hnot
      have hc : c ≠ ' ' := by
        rintro rfl
        cases hnot
      rw [List.takeWhile_cons_of_neg (by simpa using hc), List.length_nil]

theorem all_isBlank_rdropWhile (line : List Char) :
    (line.rdropWhile isBlank).all isBlank = line.all isBlank := by
  rw [List.rdropWhile, List.all_reverse, all_isBlank_dropWhile, List.all_reverse]

theorem leadingSpaces_rdropWhile {line : List Char} (h : line.all isBlank = false) :
    leadingSpaces (line.rdropWhile isBlank) = leadingSpaces line := by
  obtain ⟨blanks, hline⟩ := List.rdropWhile_prefix isBlank line
  rw [← all_isBlank_rdropWhile] at h
  conv_rhs => rw [← hline]
  rw [leadingSpaces, leadingSpaces, List.takeWhile_append, if_neg]
  intro hlength
  have hspaces := (List.takeWhile_prefix (· = ' ')).eq_of_length hlength
  have hall : (line.rdropWhile isBlank).all isBlank = true := by
    rw [← hspaces, List.all_eq_true]
    intro c hmem
    have hc := List.mem_takeWhile_imp hmem
    rw [decide_eq_true_eq] at hc
    rw [hc]
    decide
  rw [hall] at h
  cases h

theorem margins_dropWhile (cs : List Char) :
    margins (cs.dropWhile isBlank) = (margins cs).modifyHead fun _ => 0 := by
  obtain ⟨before, first, later, hsplit, hbefore, hlater, hstripped⟩ := splitChars_dropWhile cs
  rw [margins, margins, hsplit, hstripped, writtenLines_append, writtenLines_of_blank hbefore,
    List.nil_append]
  have hfirst := all_isBlank_dropWhile first
  cases hblank : first.all isBlank with
  | true =>
      rw [hblank] at hfirst
      rw [hlater hblank, writtenLines_cons_of_blank hfirst, writtenLines_cons_of_blank hblank]
      rfl
  | false =>
      rw [hblank] at hfirst
      rw [writtenLines_cons_of_written hfirst, writtenLines_cons_of_written hblank,
        List.map_cons, List.map_cons, leadingSpaces_dropWhile]
      rfl

theorem margins_rdropWhile (cs : List Char) :
    margins (cs.rdropWhile isBlank) = margins cs := by
  obtain ⟨earlier, last, after, hsplit, hafter, -, hstripped⟩ := splitChars_rdropWhile cs
  rw [margins, margins, hsplit, hstripped, writtenLines_append, writtenLines_append]
  have hlast := all_isBlank_rdropWhile last
  cases hblank : last.all isBlank with
  | true =>
      rw [hblank] at hlast
      rw [writtenLines_cons_of_blank hlast, writtenLines_cons_of_blank hblank,
        writtenLines_of_blank hafter]
      rfl
  | false =>
      rw [hblank] at hlast
      rw [writtenLines_cons_of_written hlast, writtenLines_cons_of_written hblank,
        writtenLines_of_blank hafter, List.map_append, List.map_append, List.map_cons,
        List.map_cons, leadingSpaces_rdropWhile hblank]
      rfl

theorem margins_fixIndentation {column : Nat} {text : String}
    (hstart : text.toList.head? = some '\n')
    (h : ∀ margin ∈ margins text.toList, column ≤ margin) :
    margins (fixIndentation text column).toList =
      ((margins text.toList).map (· - column)).modifyHead fun _ => 0 := by
  rw [toList_fixIndentation, Int.toNat_natCast, stripChars_eq, margins_rdropWhile,
    margins_dropWhile, margins_outdentChars hstart h]

/-! Alignment. -/

theorem keepsAlignment_map_sub {width : Nat} {before : List Nat}
    (h : ∀ margin ∈ before, width ≤ margin) :
    KeepsAlignment before (before.map (· - width)) := by
  refine ⟨List.length_map _, ?_⟩
  have hpairs : before.zip (before.map (· - width)) =
      before.map fun margin => (margin, margin - width) := by
    conv_lhs => rw [← List.map_id before]
    rw [List.map_id, ← List.zip_map']
    simp
  rw [hpairs, List.pairwise_map]
  apply List.pairwise_of_forall_mem_list
  intro margin hmargin other hother
  have := h margin hmargin
  have := h other hother
  omega

theorem realigns_modifyHead {width : Nat} {before : List Nat}
    (h : ∀ margin ∈ before, width ≤ margin) :
    Realigns width before ((before.map (· - width)).modifyHead fun _ => 0) := by
  cases before with
  | nil =>
      refine ⟨rfl, by simp, rfl, ?_, ?_⟩
      · exact keepsAlignment_map_sub h
      · exact iff_of_true (keepsAlignment_map_sub h) (.inl rfl)
  | cons margin rest =>
      rw [List.map_cons, List.modifyHead_cons]
      have hrest := keepsAlignment_map_sub (List.forall_mem_cons.mp h).2
      refine ⟨by simp, by simp, rfl, hrest, ?_, ?_⟩
      · intro hkeeps
        cases rest with
        | nil => exact .inl rfl
        | cons other others =>
            -- The first line lost its whole margin and the next one `width`.
            have hother := h other (by simp)
            have hdistance := (List.pairwise_cons.mp hkeeps.2).1 (other, other - width) (by simp)
            right
            rw [List.head?_cons, Option.some_inj]
            omega
      · rintro (hnone | hfirst)
        · rw [List.tail_cons] at hnone
          subst hnone
          exact ⟨rfl, List.pairwise_singleton _ _⟩
        · rw [List.head?_cons, Option.some_inj] at hfirst
          subst hfirst
          have hall := keepsAlignment_map_sub h
          rwa [List.map_cons, Nat.sub_self] at hall

end Text

namespace Prose

theorem render_of_code {code : Xml.Element} (htag : code.tag = "code")
    (language context : String) (column : Nat) :
    render language context column code.toNode = .ok (codeBlock language code.text column) := by
  rw [Xml.Element.toNode, render, if_neg (by rw [htag]; decide), if_pos htag]
  rfl

/-- A block of code that starts on a line of its own: all its lines but the first stand as in
the file, less the column of the parent, and they all keep their distances exactly when the
first stands at that column. -/
theorem realigns_of_code {column : Nat} {code : Xml.Element} (htag : code.tag = "code")
    (hstart : code.text.toList.head? = some '\n')
    (hindented : ∀ margin ∈ Text.margins code.text.toList, column ≤ margin)
    (language context : String) :
    ∃ content : String,
      render language context column code.toNode =
        .ok ("\n\x60\x60\x60" ++ language ++ "\n" ++ content ++ "\n\x60\x60\x60\n") ∧
      Text.Realigns column (Text.margins code.text.toList) (Text.margins content.toList) := by
  refine ⟨Text.fixIndentation code.text column, render_of_code htag language context column, ?_⟩
  rw [Text.margins_fixIndentation hstart hindented]
  exact Text.realigns_modifyHead hindented

/-- Code with markup inside, at the column of its parent and with deeper lines. -/
theorem realigns_of_nested_code :
    let code : Xml.Element := ⟨"code", [], ⟨3, 4⟩, [
      .text "\n  if (", .element "b" [] ⟨4, 6⟩ [.text "x"], .text ")\n      Run();\n\n    done\n  "]⟩
    code.tag = "code" ∧ code.text.toList.head? = some '\n' ∧
      (∀ margin ∈ Text.margins code.text.toList, 2 ≤ margin) ∧
      ∃ content : String,
        render "cs" "N.C" 2 code.toNode =
          .ok ("\n\x60\x60\x60" ++ "cs" ++ "\n" ++ content ++ "\n\x60\x60\x60\n") ∧
        Text.Realigns 2 (Text.margins code.text.toList) (Text.margins content.toList) := by
  intro code
  have hstart : code.text.toList.head? = some '\n' := by decide
  have hindented : ∀ margin ∈ Text.margins code.text.toList, 2 ≤ margin := by decide
  exact ⟨rfl, hstart, hindented, realigns_of_code rfl hstart hindented "cs" "N.C"⟩

/-- Two lines of code that are aligned, and deeper than their parent, are not aligned in the
block. -/
theorem render_of_deeper_code :
    let code : Xml.Element := ⟨"code", [], ⟨3, 4⟩, [.text "\n      a\n      b\n    "]⟩
    code.text.toList.head? = some '\n' ∧
      Text.margins code.text.toList = [6, 6] ∧
      render "csharp" "N.C" 2 code.toNode =
        .ok "\n\x60\x60\x60csharp\na\n    b\n\x60\x60\x60\n" ∧
      Text.margins "a\n    b".toList = [0, 4] ∧
      ¬ Text.KeepsAlignment [6, 6] [0, 4] := by
  decide

end Prose

end ApiDocs
