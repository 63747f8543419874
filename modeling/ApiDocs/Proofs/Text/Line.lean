import ApiDocs.Text.Blank
import ApiDocs.Text.Split
import Mathlib.Data.List.DropRight
import Mathlib.Data.List.ModifyLast

namespace ApiDocs.Text

/-! Lines of texts that are joined, reversed or stripped.  Stripping drops blank lines at both
ends; of the lines that are left, it cuts the first at its start and the last at its end. -/

theorem splitChars_cons_self (separator : Char) (rest : List Char) :
    splitChars separator (separator :: rest) = [] :: splitChars separator rest := by
  simp [splitStep]

theorem splitChars_cons_of_ne {separator c : Char} {rest piece : List Char}
    {more : List (List Char)} (hne : c ≠ separator)
    (hsplit : splitChars separator rest = piece :: more) :
    splitChars separator (c :: rest) = (c :: piece) :: more := by
  rw [splitChars_cons, hsplit, splitStep, if_neg hne]

theorem intercalate_glue (separator : List Char) (initial later : List (List Char))
    (last first : List Char) :
    separator.intercalate (initial ++ (last ++ first) :: later) =
      separator.intercalate (initial ++ [last]) ++ separator.intercalate (first :: later) := by
  induction initial with
  | nil => cases later <;> simp
  | cons piece rest ih =>
      rw [List.cons_append, List.cons_append,
        List.intercalate_cons_of_ne_nil (by simp), List.intercalate_cons_of_ne_nil (by simp), ih]
      simp only [List.append_assoc]

theorem splitChars_append {separator : Char} {left right last first : List Char}
    {initial later : List (List Char)} (hleft : splitChars separator left = initial ++ [last])
    (hright : splitChars separator right = first :: later) :
    splitChars separator (left ++ right) = initial ++ (last ++ first) :: later := by
  have hleftText := intercalate_splitChars separator left
  have hrightText := intercalate_splitChars separator right
  have hleftPieces := not_mem_splitChars separator left
  have hrightPieces := not_mem_splitChars separator right
  rw [hleft] at hleftText hleftPieces
  rw [hright] at hrightText hrightPieces
  rw [← hleftText, ← hrightText, ← intercalate_glue]
  apply splitChars_intercalate (by simp)
  intro piece hmem
  simp only [List.mem_append, List.mem_cons] at hmem hleftPieces hrightPieces
  rcases hmem with hmem | rfl | hmem
  · exact hleftPieces piece (.inl hmem)
  · rw [List.mem_append, not_or]
    exact ⟨hleftPieces last (.inr (.inl rfl)), hrightPieces first (.inl rfl)⟩
  · exact hrightPieces piece (.inr hmem)

theorem splitChars_append_of_not_mem {separator : Char} {start cs first : List Char}
    {later : List (List Char)} (hstart : separator ∉ start)
    (hsplit : splitChars separator cs = first :: later) :
    splitChars separator (start ++ cs) = (start ++ first) :: later := by
  have hwhole : splitChars separator start = [] ++ [start] := splitChars_of_not_mem hstart
  exact splitChars_append hwhole hsplit

theorem splitChars_reverse (separator : Char) (cs : List Char) :
    splitChars separator cs.reverse = ((splitChars separator cs).map List.reverse).reverse := by
  induction cs with
  | nil => rfl
  | cons c rest ih =>
      rw [List.reverse_cons]
      by_cases h : c = separator
      · rw [h, splitChars_append_cons, ih, splitChars_cons_self]
        simp
      · obtain ⟨piece, more, hsplit⟩ :=
          List.exists_cons_of_ne_nil (splitChars_ne_nil separator rest)
        have hlast : splitChars separator [c] = [[c]] :=
          splitChars_of_not_mem (by simpa using Ne.symm h)
        rw [hsplit, List.map_cons, List.reverse_cons] at ih
        rw [splitChars_append ih hlast, splitChars_cons_of_ne h hsplit]
        simp

/-! Stripping at one end. -/

theorem splitChars_dropWhile (cs : List Char) :
    ∃ before first later, splitChars '\n' cs = before ++ first :: later ∧
      (∀ line ∈ before, line.all isBlank = true) ∧
      (first.all isBlank = true → later = []) ∧
      splitChars '\n' (cs.dropWhile isBlank) = first.dropWhile isBlank :: later := by
  induction cs with
  | nil => exact ⟨[], [], [], rfl, by simp, fun _ => rfl, rfl⟩
  | cons c rest ih =>
      cases hblank : isBlank c with
      | true =>
          obtain ⟨before, first, later, hsplit, hbefore, hlater, hstripped⟩ := ih
          rw [List.dropWhile_cons_of_pos hblank, hstripped]
          by_cases h : c = '\n'
          · refine ⟨[] :: before, first, later, ?_, ?_, hlater, rfl⟩
            · rw [h, splitChars_cons_self, hsplit, List.cons_append]
            · exact List.forall_mem_cons.mpr ⟨rfl, hbefore⟩
          · -- The blank belongs to the line that is cut, or to one that is dropped before it.
            cases before with
            | nil =>
                refine ⟨[], c :: first, later, splitChars_cons_of_ne h hsplit, by simp, ?_, ?_⟩
                · simpa [hblank] using hlater
                · rw [List.dropWhile_cons_of_pos hblank]
            | cons line lines =>
                refine ⟨(c :: line) :: lines, first, later, splitChars_cons_of_ne h hsplit, ?_,
                  hlater, rfl⟩
                rw [List.forall_mem_cons] at hbefore ⊢
                exact ⟨by simpa [hblank] using hbefore.1, hbefore.2⟩
      | false =>
          have hne : c ≠ '\n' := by
            rintro rfl
            exact absurd hblank (by decide)
          have hnot : ¬ isBlank c = true := by simp [hblank]
          obtain ⟨line, later, hsplit⟩ :=
            List.exists_cons_of_ne_nil (splitChars_ne_nil '\n' rest)
          have hline := splitChars_cons_of_ne hne hsplit
          refine ⟨[], c :: line, later, hline, by simp, ?_, ?_⟩
          · simp [hblank]
          · rw [List.dropWhile_cons_of_neg hnot, List.dropWhile_cons_of_neg hnot, hline]

theorem splitChars_rdropWhile (cs : List Char) :
    ∃ earlier last after, splitChars '\n' cs = earlier ++ last :: after ∧
      (∀ line ∈ after, line.all isBlank = true) ∧
      (last.all isBlank = true → earlier = []) ∧
      splitChars '\n' (cs.rdropWhile isBlank) = earlier ++ [last.rdropWhile isBlank] := by
  obtain ⟨before, first, later, hsplit, hbefore, hlater, hstripped⟩ :=
    splitChars_dropWhile cs.reverse
  have hlines : splitChars '\n' cs =
      (later.map List.reverse).reverse ++ first.reverse :: (before.map List.reverse).reverse := by
    have hreverse := splitChars_reverse '\n' cs.reverse
    rw [List.reverse_reverse, hsplit] at hreverse
    simpa using hreverse
  refine ⟨_, first.reverse, _, hlines, ?_, ?_, ?_⟩
  · intro line hmem
    rw [List.mem_reverse, List.mem_map] at hmem
    obtain ⟨other, hother, rfl⟩ := hmem
    rw [List.all_reverse]
    exact hbefore other hother
  · simpa using hlater
  · have hlast : first.reverse.rdropWhile isBlank = (first.dropWhile isBlank).reverse :=
      List.rdropWhile_reverse isBlank first
    rw [List.rdropWhile, splitChars_reverse, hstripped, hlast]
    simp

theorem stripChars_eq (cs : List Char) :
    stripChars cs = (cs.dropWhile isBlank).rdropWhile isBlank := rfl

/-! Stripping at both ends. -/

/-- What stripping a text makes of its lines. -/
def StripsEnds (lines stripped : List (List Char)) : Prop :=
  ∃ before inner after, lines = before ++ inner ++ after ∧
    (∀ line ∈ before ++ after, line.all isBlank = true) ∧
    stripped = (inner.modifyHead (·.dropWhile isBlank)).modifyLast (·.rdropWhile isBlank)

theorem stripsEnds_splitChars (cs : List Char) :
    StripsEnds (splitChars '\n' cs) (splitChars '\n' (stripChars cs)) := by
  obtain ⟨before, first, later, hsplit, hbefore, -, hstart⟩ := splitChars_dropWhile cs
  obtain ⟨earlier, last, after, hmiddle, hafter, -, hend⟩ :=
    splitChars_rdropWhile (cs.dropWhile isBlank)
  have hblank : ∀ line ∈ before ++ after, line.all isBlank = true := by
    intro line hmem
    rcases List.mem_append.mp hmem with hmem | hmem
    · exact hbefore line hmem
    · exact hafter line hmem
  rw [stripChars_eq, hend, hsplit]
  rw [hstart] at hmiddle
  cases earlier with
  | nil =>
      obtain ⟨rfl, rfl⟩ := List.cons.inj hmiddle
      exact ⟨before, [first], later, by simp, hblank, rfl⟩
  | cons line lines =>
      obtain ⟨rfl, rfl⟩ := List.cons.inj hmiddle
      refine ⟨before, first :: lines ++ [last], after, by simp, hblank, ?_⟩
      have hhead : (first :: lines ++ [last]).modifyHead (·.dropWhile isBlank) =
          (first.dropWhile isBlank :: lines) ++ [last] := rfl
      rw [hhead, List.modifyLast_concat]

end ApiDocs.Text
