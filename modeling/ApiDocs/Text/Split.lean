namespace ApiDocs.Text

/-! Texts cut at a separator, and put together again. -/

def splitStep (separator c : Char) (pieces : List (List Char)) : List (List Char) :=
  if c = separator then
    [] :: pieces
  else
    match pieces with
    | [] => [[c]]
    | piece :: more => (c :: piece) :: more

/-- Cuts at every occurrence of the separator; n separators give n + 1 pieces. -/
def splitChars (separator : Char) (cs : List Char) : List (List Char) :=
  cs.foldr (splitStep separator) [[]]

@[simp] theorem splitChars_nil (separator : Char) :
    splitChars separator [] = [[]] := rfl

@[simp] theorem splitChars_cons (separator c : Char) (rest : List Char) :
    splitChars separator (c :: rest) =
      splitStep separator c (splitChars separator rest) := rfl

def split (separator : Char) (text : String) : List String :=
  (splitChars separator text.toList).map String.ofList

theorem splitChars_ne_nil (separator : Char) (cs : List Char) :
    splitChars separator cs ≠ [] := by
  induction cs with
  | nil => simp
  | cons c rest ih =>
      simp only [splitChars_cons, splitStep]
      split
      · simp
      · split <;> simp

theorem split_ne_nil (separator : Char) (text : String) :
    split separator text ≠ [] := by
  simp [split, splitChars_ne_nil]

theorem length_splitChars (separator : Char) (cs : List Char) :
    (splitChars separator cs).length = cs.count separator + 1 := by
  induction cs with
  | nil => rfl
  | cons c rest ih =>
      simp only [splitChars_cons, splitStep, List.count_cons]
      split
      · next h => simp [h, ih]
      · next h =>
          cases hs : splitChars separator rest with
          | nil => exact absurd hs (splitChars_ne_nil separator rest)
          | cons piece pieces =>
              rw [hs] at ih
              simpa [h] using ih

theorem intercalate_splitChars (separator : Char) (cs : List Char) :
    [separator].intercalate (splitChars separator cs) = cs := by
  induction cs with
  | nil => rfl
  | cons c rest ih =>
      simp only [splitChars_cons, splitStep]
      split
      · next h =>
          subst h
          cases hs : splitChars c rest with
          | nil => exact absurd hs (splitChars_ne_nil c rest)
          | cons piece pieces =>
              rw [hs] at ih
              rw [List.intercalate_cons_cons, ih]
              rfl
      · cases hs : splitChars separator rest with
        | nil => exact absurd hs (splitChars_ne_nil separator rest)
        | cons piece pieces =>
            rw [hs] at ih
            cases pieces with
            | nil =>
                simp only [List.intercalate_singleton] at ih ⊢
                rw [ih]
            | cons next more =>
                rw [List.intercalate_cons_cons] at ih ⊢
                rw [← ih]
                rfl

theorem not_mem_splitChars (separator : Char) (cs : List Char) :
    ∀ piece ∈ splitChars separator cs, separator ∉ piece := by
  induction cs with
  | nil => simp
  | cons c rest ih =>
      simp only [splitChars_cons, splitStep]
      split
      · intro piece hmem
        rcases List.mem_cons.mp hmem with h | h
        · simp [h]
        · exact ih piece h
      · next hne =>
          cases hs : splitChars separator rest with
          | nil => exact absurd hs (splitChars_ne_nil separator rest)
          | cons first more =>
              rw [hs] at ih
              intro piece hmem
              rcases List.mem_cons.mp hmem with h | h
              · subst h
                intro hin
                rcases List.mem_cons.mp hin with hc | hc
                · exact hne hc.symm
                · exact ih first (by simp) hc
              · exact ih piece (by simp [h])

theorem mem_of_mem_splitChars {separator c : Char} {cs piece : List Char}
    (hpiece : piece ∈ splitChars separator cs) (hc : c ∈ piece) : c ∈ cs := by
  induction cs generalizing piece with
  | nil =>
      rw [splitChars_nil, List.mem_singleton] at hpiece
      exact absurd hc (by simp [hpiece])
  | cons d rest ih =>
      cases hs : splitChars separator rest with
      | nil => exact absurd hs (splitChars_ne_nil separator rest)
      | cons first more =>
          rw [hs] at ih
          rw [splitChars_cons, hs, splitStep] at hpiece
          split at hpiece
          · rcases List.mem_cons.mp hpiece with rfl | hmem
            · exact absurd hc List.not_mem_nil
            · exact List.mem_cons_of_mem d (ih hmem hc)
          · rcases List.mem_cons.mp hpiece with rfl | hmem
            · rcases List.mem_cons.mp hc with rfl | hfirst
              · exact List.mem_cons_self
              · exact List.mem_cons_of_mem d (ih List.mem_cons_self hfirst)
            · exact List.mem_cons_of_mem d (ih (List.mem_cons_of_mem first hmem) hc)

theorem splitChars_of_not_mem {separator : Char} {cs : List Char}
    (h : separator ∉ cs) : splitChars separator cs = [cs] := by
  induction cs with
  | nil => rfl
  | cons c rest ih =>
      simp only [List.mem_cons, not_or] at h
      obtain ⟨hne, hrest⟩ := h
      rw [splitChars_cons, ih hrest, splitStep, if_neg (Ne.symm hne)]

theorem splitChars_append_cons (separator : Char) (left right : List Char) :
    splitChars separator (left ++ separator :: right) =
      splitChars separator left ++ splitChars separator right := by
  induction left with
  | nil => simp [splitStep]
  | cons c rest ih =>
      rw [List.cons_append, splitChars_cons, splitChars_cons, ih]
      by_cases h : c = separator
      · simp [splitStep, h]
      · cases hs : splitChars separator rest with
        | nil => exact absurd hs (splitChars_ne_nil separator rest)
        | cons piece more => simp [splitStep, h]

theorem splitChars_intercalate {separator : Char} {pieces : List (List Char)}
    (hne : pieces ≠ []) (h : ∀ piece ∈ pieces, separator ∉ piece) :
    splitChars separator ([separator].intercalate pieces) = pieces := by
  induction pieces with
  | nil => exact absurd rfl hne
  | cons piece more ih =>
      have hpiece := splitChars_of_not_mem (h piece (by simp))
      cases more with
      | nil => rw [List.intercalate_singleton, hpiece]
      | cons next others =>
          rw [List.intercalate_cons_cons, List.append_assoc, List.singleton_append,
            splitChars_append_cons, hpiece,
            ih (by simp) (fun other hmem => h other (by simp [hmem]))]
          rfl

theorem intercalate_split (separator : Char) (text : String) :
    (String.singleton separator).intercalate (split separator text) = text := by
  rw [← String.toList_inj, String.toList_intercalate]
  simp [split, Function.comp_def, intercalate_splitChars]

end ApiDocs.Text
