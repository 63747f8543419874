import ApiDocs.Proofs.Metadata.CanonicalName

namespace ApiDocs.Metadata.TypeRef

/-! Arrays of a type, pointers and references to it.  What is written for them is what is
written for the type, with the suffix behind it. -/

/-- A suffix as identifiers have it. -/
def suffixInIdentifiers (suffix : String) : String :=
  suffix.map fun c => if c = '&' then '@' else c

/-- How a suffix adds to what is written for a name. -/
structure Suffixes (name suffix : String) (arguments : List TypeRef) : Prop where
  human : humanName ⟨name ++ suffix, arguments⟩ = humanName ⟨name, arguments⟩ ++ suffix
  canonical : canonicalName ⟨name ++ suffix, arguments⟩ =
    canonicalName ⟨name, arguments⟩ ++ suffixInIdentifiers suffix
  element : ∃ element own : String, name = element ++ own ∧
    (∀ c ∈ own.toList, isSuffixChar c = true) ∧
    (∀ c ∈ element.toList.getLast?, isSuffixChar c = false) ∧
    humanName ⟨name ++ suffix, arguments⟩ =
      humanName ⟨element, arguments⟩ ++ (own ++ suffix) ∧
    canonicalName ⟨name ++ suffix, arguments⟩ =
      canonicalName ⟨element, arguments⟩ ++ suffixInIdentifiers (own ++ suffix)

theorem baseChars_append {suffix : List Char} (h : ∀ c ∈ suffix, isSuffixChar c = true)
    (cs : List Char) : baseChars (cs ++ suffix) = baseChars cs := by
  have hreverse : ∀ c ∈ suffix.reverse, isSuffixChar c = true := by simpa using h
  rw [baseChars, List.reverse_append, List.dropWhile_append_of_pos hreverse, baseChars]

theorem suffixChars_append {suffix : List Char} (h : ∀ c ∈ suffix, isSuffixChar c = true)
    (cs : List Char) : suffixChars (cs ++ suffix) = suffixChars cs ++ suffix := by
  have hreverse : ∀ c ∈ suffix.reverse, isSuffixChar c = true := by simpa using h
  rw [suffixChars, List.reverse_append, List.takeWhile_append_of_pos hreverse,
    List.reverse_append, List.reverse_reverse, suffixChars]

theorem baseChars_append_suffixChars (cs : List Char) : baseChars cs ++ suffixChars cs = cs := by
  rw [baseChars, suffixChars, ← List.reverse_append, List.takeWhile_append_dropWhile,
    List.reverse_reverse]

theorem isSuffixChar_getLast?_baseChars (cs : List Char) :
    ∀ c ∈ (baseChars cs).getLast?, isSuffixChar c = false := by
  intro c hlast
  rw [baseChars, List.getLast?_reverse] at hlast
  have hnot := List.head?_dropWhile_not isSuffixChar cs.reverse
  rw [Option.mem_def.mp hlast] at hnot
  simpa using hnot

section

variable {suffix : String} (h : ∀ c ∈ suffix.toList, isSuffixChar c = true) (name : String)
include h

theorem base_append : base (name ++ suffix) = base name := by
  rw [base, String.toList_append, baseChars_append h, base]

theorem suffixChars_toList_append :
    suffixChars (name ++ suffix).toList = suffixChars name.toList ++ suffix.toList := by
  rw [String.toList_append, suffixChars_append h]

theorem canonicalSuffix_append :
    canonicalSuffix (name ++ suffix) =
      canonicalSuffix name ++ (suffixInIdentifiers suffix).toList := by
  rw [canonicalSuffix, suffixChars_toList_append h, List.map_append, ← canonicalSuffix,
    suffixInIdentifiers, String.toList_map]

theorem humanName_append (arguments : List TypeRef) :
    humanName ⟨name ++ suffix, arguments⟩ = humanName ⟨name, arguments⟩ ++ suffix := by
  rw [← String.toList_inj, String.toList_append, humanName, humanName, String.toList_ofList,
    String.toList_ofList]
  cases arguments with
  | nil =>
      rw [human, human, base_append h, suffixChars_toList_append h, List.append_assoc]
  | cons first rest =>
      rw [human, human, base_append h, suffixChars_toList_append h]
      simp only [List.append_assoc]

theorem canonicalName_append (arguments : List TypeRef) :
    canonicalName ⟨name ++ suffix, arguments⟩ =
      canonicalName ⟨name, arguments⟩ ++ suffixInIdentifiers suffix := by
  rw [← String.toList_inj, String.toList_append, canonicalName, canonicalName,
    String.toList_ofList, String.toList_ofList]
  cases arguments with
  | nil =>
      rw [canonical, canonical, base_append h, canonicalSuffix_append h, List.append_assoc]
  | cons first rest =>
      rw [canonical, canonical, base_append h, canonicalSuffix_append h]
      simp only [List.append_assoc]

end

theorem exists_element (name : String) :
    ∃ element own : String, name = element ++ own ∧
      (∀ c ∈ own.toList, isSuffixChar c = true) ∧
      ∀ c ∈ element.toList.getLast?, isSuffixChar c = false := by
  refine ⟨String.ofList (baseChars name.toList), String.ofList (suffixChars name.toList),
    ?_, ?_, ?_⟩
  · rw [← String.ofList_append, baseChars_append_suffixChars, String.ofList_toList]
  · intro c hmem
    rw [String.toList_ofList] at hmem
    exact isSuffixChar_of_mem_suffixChars hmem
  · rw [String.toList_ofList]
    exact isSuffixChar_getLast?_baseChars name.toList

/-- Keywords, arities and arguments belong to the element type, however many suffixes there
are. -/
theorem suffixes_of_suffixChars {suffix : String}
    (h : ∀ c ∈ suffix.toList, isSuffixChar c = true) (name : String)
    (arguments : List TypeRef) : Suffixes name suffix arguments where
  human := humanName_append h name arguments
  canonical := canonicalName_append h name arguments
  element := by
    obtain ⟨element, own, rfl, hown, helement⟩ := exists_element name
    have hboth : ∀ c ∈ (own ++ suffix).toList, isSuffixChar c = true := by
      rw [String.toList_append, List.forall_mem_append]
      exact ⟨hown, h⟩
    refine ⟨element, own, rfl, hown, helement, ?_, ?_⟩
    · rw [String.append_assoc, humanName_append hboth]
    · rw [String.append_assoc, canonicalName_append hboth]

/-- A reference to a pointer to arrays of an array, whose element type has a keyword or
arguments. -/
theorem suffixes_of_array :
    let suffix := "[,]*&"
    (∀ c ∈ suffix.toList, isSuffixChar c = true) ∧
      Suffixes "System.Int32[]" suffix [] ∧
      humanName ⟨"System.Int32[][,]*&", []⟩ = "int[][,]*&" ∧
      Suffixes "N.Map\x602[]" suffix [⟨"System.Int32", []⟩, ⟨"N.A+B", []⟩] ∧
      canonicalName ⟨"N.Map\x602[][,]*&", [⟨"System.Int32", []⟩, ⟨"N.A+B", []⟩]⟩ =
        "N.Map\x7bSystem.Int32,N.A.B\x7d[][,]*@" := by
  intro suffix
  have hall : suffix.toList.all isSuffixChar = true := by decide
  have hsuffix := List.all_eq_true.mp hall
  exact ⟨hsuffix, suffixes_of_suffixChars hsuffix _ _, by decide,
    suffixes_of_suffixChars hsuffix _ _, by decide⟩

end ApiDocs.Metadata.TypeRef
