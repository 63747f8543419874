import ApiDocs.Proofs.Metadata.CanonicalName
import ApiDocs.Text.Split

namespace ApiDocs.Metadata

/-! Names of generic types, by their segments.  The number of arguments stands behind the
segment that takes them, and everything behind the first such number is cut off. -/

def isDelimiter (c : Char) : Bool :=
  TypeRef.isReserved c || c = '.' || c = '+' || c = '\x60'

theorem isDelimiter_of_isDigit {c : Char} (hdigit : c.isDigit = true) :
    isDelimiter c = false := by
  rw [Bool.eq_false_iff]
  intro h
  simp only [isDelimiter, TypeRef.isReserved, TypeRef.isSuffixChar, Bool.or_eq_true,
    decide_eq_true_eq, or_assoc] at h
  rcases h with rfl | rfl | rfl | rfl | rfl | rfl | rfl | rfl | rfl | rfl | rfl | rfl |
    rfl <;> exact absurd hdigit (by decide)

theorem not_suffixChar_of_not_delimiter {c : Char} (h : isDelimiter c = false) :
    TypeRef.isSuffixChar c = false := by
  simp only [isDelimiter, TypeRef.isReserved, Bool.or_eq_false_iff] at h
  exact h.1.1.1.1.1.1.1.1

/-- An identifier, and the digits of its arity if it has one. -/
structure Segment where
  identifier : List Char
  arity? : Option (List Char)
  clean : ∀ c ∈ identifier, isDelimiter c = false
  digits : ∀ arity ∈ arity?, ∀ c ∈ arity, c.isDigit = true

namespace Segment

def arityChars (segment : Segment) : List Char :=
  match segment.arity? with
  | none => []
  | some arity => '\x60' :: arity

def chars (segment : Segment) : List Char :=
  segment.identifier ++ segment.arityChars

/-- The identifiers up to the first one with an arity. -/
def visible : List Segment → List (List Char)
  | [] => []
  | segment :: rest =>
      segment.identifier :: if segment.arity?.isSome then [] else visible rest

theorem ne_of_mem_identifier {segment : Segment} {c d : Char}
    (hmem : c ∈ segment.identifier) (hdelimiter : isDelimiter d = true) : c ≠ d := by
  rintro rfl
  exact absurd hdelimiter (by simp [segment.clean c hmem])

theorem not_suffixChar_of_mem_chars {segment : Segment} {c : Char}
    (hmem : c ∈ segment.chars) : TypeRef.isSuffixChar c = false := by
  rcases List.mem_append.mp hmem with hidentifier | harity
  · exact not_suffixChar_of_not_delimiter (segment.clean c hidentifier)
  · cases hdigits : segment.arity? with
    | none => simp [arityChars, hdigits] at harity
    | some arity =>
        simp only [arityChars, hdigits, List.mem_cons] at harity
        rcases harity with rfl | hdigit
        · decide
        · exact not_suffixChar_of_not_delimiter
            (isDelimiter_of_isDigit (segment.digits arity hdigits c hdigit))

theorem not_mem_of_mem_visible {segments : List Segment} {identifier : List Char}
    (hmem : identifier ∈ visible segments) : '.' ∉ identifier := by
  induction segments with
  | nil => simp [visible] at hmem
  | cons segment rest ih =>
      rw [visible, List.mem_cons] at hmem
      rcases hmem with rfl | hrest
      · intro hdot
        exact ne_of_mem_identifier hdot (by decide) rfl
      · split at hrest
        · simp at hrest
        · exact ih hrest

theorem visible_eq_identifiers_iff (segments : List Segment) :
    visible segments = segments.map identifier ↔
      ∀ segment ∈ segments.dropLast, segment.arity? = none := by
  induction segments with
  | nil => simp [visible]
  | cons segment rest ih =>
      cases rest with
      | nil => simp [visible]
      | cons next more =>
          rw [visible, List.map_cons, List.dropLast_cons_cons]
          cases harity : segment.arity? with
          | none => simpa [harity] using ih
          | some arity => simp [harity]

end Segment

/-- A name by its segments.  Each but the first stands behind a dot or, if it is nested in
the one before, behind a plus sign. -/
structure SegmentedName where
  first : Segment
  rest : List (Bool × Segment)

namespace SegmentedName

def separated : Bool × Segment → List Char
  | (nested, segment) => (if nested then '+' else '.') :: segment.chars

def chars (name : SegmentedName) : List Char :=
  name.first.chars ++ name.rest.flatMap separated

def text (name : SegmentedName) : String :=
  String.ofList name.chars

def segments (name : SegmentedName) : List Segment :=
  name.first :: name.rest.map Prod.snd

def identifiers (name : SegmentedName) : List (List Char) :=
  name.segments.map Segment.identifier

/-- The identifiers that remain when the name is cut behind the first one with an arity. -/
def visible (name : SegmentedName) : List (List Char) :=
  Segment.visible name.segments

theorem splitChars_visible (name : SegmentedName) :
    Text.splitChars '.' (['.'].intercalate name.visible) = name.visible :=
  Text.splitChars_intercalate (List.cons_ne_nil _ _)
    (fun _ hmem => Segment.not_mem_of_mem_visible hmem)

theorem not_suffixChar_of_mem_chars {name : SegmentedName} {c : Char}
    (hmem : c ∈ name.chars) : TypeRef.isSuffixChar c = false := by
  rcases List.mem_append.mp hmem with hfirst | hrest
  · exact Segment.not_suffixChar_of_mem_chars hfirst
  · obtain ⟨⟨nested, segment⟩, -, hseparated⟩ := List.mem_flatMap.mp hrest
    rw [separated, List.mem_cons] at hseparated
    rcases hseparated with rfl | hsegment
    · cases nested <;> decide
    · exact Segment.not_suffixChar_of_mem_chars hsegment

end SegmentedName

namespace TypeRef

theorem baseChars_of_not_suffixChar {cs : List Char}
    (h : ∀ c ∈ cs, isSuffixChar c = false) : baseChars cs = cs := by
  cases hreverse : cs.reverse with
  | nil => simp [baseChars, List.reverse_eq_nil_iff.mp hreverse]
  | cons c rest =>
      have hc : isSuffixChar c = false :=
        h c (List.mem_reverse.mp (hreverse ▸ List.mem_cons_self))
      rw [baseChars, hreverse, List.dropWhile_cons_of_neg (by simp [hc]), ← hreverse,
        List.reverse_reverse]

theorem suffixChars_of_not_suffixChar {cs : List Char}
    (h : ∀ c ∈ cs, isSuffixChar c = false) : suffixChars cs = [] := by
  rw [List.eq_nil_iff_forall_not_mem]
  intro c hmem
  have hcs : c ∈ cs := by
    rw [suffixChars, List.mem_reverse] at hmem
    exact List.mem_reverse.mp ((List.takeWhile_sublist _).subset hmem)
  exact absurd (isSuffixChar_of_mem_suffixChars hmem) (by simp [h c hcs])

/-! The part of a name that stays when the arity is cut off -/

theorem dropArity_identifier_append (segment : Segment) (rest : List Char) :
    dropArity (dotNested (segment.identifier ++ rest)) =
      segment.identifier ++ dropArity (dotNested rest) := by
  have hdotted : dotNested segment.identifier = segment.identifier := by
    refine (List.map_congr_left ?_).trans (List.map_id _)
    intro c hmem
    exact if_neg (Segment.ne_of_mem_identifier hmem (by decide))
  have hticks : ∀ c ∈ segment.identifier, (c != '\x60') = true := by
    intro c hmem
    simpa using Segment.ne_of_mem_identifier hmem (d := '\x60') (by decide)
  rw [dropArity, dotNested, List.map_append, ← dotNested, hdotted,
    List.takeWhile_append_of_pos hticks]
  rfl

theorem dropArity_separated (nested : Bool) (segment : Segment) (rest : List Char) :
    dropArity (dotNested (SegmentedName.separated (nested, segment) ++ rest)) =
      '.' :: dropArity (dotNested (segment.chars ++ rest)) := by
  cases nested <;> rfl

theorem dropArity_segments (first : Segment) (rest : List (Bool × Segment)) :
    dropArity (dotNested (first.chars ++ rest.flatMap SegmentedName.separated)) =
      ['.'].intercalate (Segment.visible (first :: rest.map Prod.snd)) := by
  induction rest generalizing first with
  | nil =>
      rw [List.flatMap_nil, List.append_nil, Segment.chars, dropArity_identifier_append]
      cases harity : first.arity? with
      | none => simp [Segment.visible, Segment.arityChars, harity, dotNested, dropArity]
      | some arity =>
          simp [Segment.visible, Segment.arityChars, harity, dotNested, dropArity]
  | cons entry more ih =>
      obtain ⟨nested, next⟩ := entry
      rw [List.flatMap_cons, Segment.chars, List.append_assoc, dropArity_identifier_append]
      cases harity : first.arity? with
      | none =>
          rw [Segment.arityChars, harity, List.nil_append, dropArity_separated, ih next]
          simp [Segment.visible, harity, List.intercalate_cons_cons]
      | some arity =>
          simp [Segment.visible, Segment.arityChars, harity, dotNested, dropArity]

theorem suffixChars_text (name : SegmentedName) : suffixChars name.text.toList = [] := by
  rw [SegmentedName.text, String.toList_ofList]
  apply suffixChars_of_not_suffixChar
  intro c hmem
  exact SegmentedName.not_suffixChar_of_mem_chars hmem

theorem dropArity_base_text (name : SegmentedName) :
    dropArity (base name.text) = ['.'].intercalate name.visible := by
  rw [base, SegmentedName.text, String.toList_ofList, baseChars_of_not_suffixChar
    (fun c hmem => SegmentedName.not_suffixChar_of_mem_chars hmem)]
  exact dropArity_segments name.first name.rest

theorem dropArity_base_text_eq_iff (left right : SegmentedName) :
    dropArity (base left.text) = dropArity (base right.text) ↔
      left.visible = right.visible := by
  rw [dropArity_base_text, dropArity_base_text]
  constructor
  · intro heq
    rw [← left.splitChars_visible, heq, right.splitChars_visible]
  · intro heq
    rw [heq]

theorem canonicalName_eq_iff_visible (left right : SegmentedName) (first : TypeRef)
    (rest : List TypeRef) :
    canonicalName ⟨left.text, first :: rest⟩ = canonicalName ⟨right.text, first :: rest⟩ ↔
      left.visible = right.visible := by
  have hsuffix (name : SegmentedName) : canonicalSuffix name.text = [] := by
    rw [canonicalSuffix, suffixChars_text, List.map_nil]
  rw [← dropArity_base_text_eq_iff, canonicalName, canonicalName, String.ofList_inj,
    canonical_generic, canonical_generic, hsuffix, hsuffix, List.append_left_inj]

theorem humanName_eq_iff_visible (left right : SegmentedName) (first : TypeRef)
    (rest : List TypeRef) :
    humanName ⟨left.text, first :: rest⟩ = humanName ⟨right.text, first :: rest⟩ ↔
      left.visible = right.visible := by
  rw [← dropArity_base_text_eq_iff, humanName, humanName, String.ofList_inj, human, human,
    suffixChars_text, suffixChars_text]
  simp only [List.append_assoc, List.append_left_inj]

/-- Generic names with the same arguments are told apart by their visible identifiers.
That their identifiers tell them apart holds exactly for names whose visible identifiers
determine the others, and all identifiers of a name are visible exactly if no segment but
the last has an arity. -/
theorem genericName_distinguishes_iff (left right : SegmentedName)
    {arguments : List TypeRef} (hne : arguments ≠ []) :
    (canonicalName ⟨left.text, arguments⟩ = canonicalName ⟨right.text, arguments⟩ ↔
      left.visible = right.visible) ∧
    (humanName ⟨left.text, arguments⟩ = humanName ⟨right.text, arguments⟩ ↔
      left.visible = right.visible) ∧
    ((left.identifiers ≠ right.identifiers →
        canonicalName ⟨left.text, arguments⟩ ≠ canonicalName ⟨right.text, arguments⟩ ∧
          humanName ⟨left.text, arguments⟩ ≠ humanName ⟨right.text, arguments⟩) ↔
      (left.visible = right.visible → left.identifiers = right.identifiers)) ∧
    (left.visible = left.identifiers ↔
      ∀ segment ∈ left.segments.dropLast, segment.arity? = none) := by
  obtain ⟨first, rest, rfl⟩ := List.exists_cons_of_ne_nil hne
  have hcanonical := canonicalName_eq_iff_visible left right first rest
  have hhuman := humanName_eq_iff_visible left right first rest
  refine ⟨hcanonical, hhuman, ?_, Segment.visible_eq_identifiers_iff left.segments⟩
  constructor
  · intro hdistinguishes hvisible
    by_contra hidentifiers
    exact (hdistinguishes hidentifiers).1 (hcanonical.mpr hvisible)
  · intro hdetermines hidentifiers
    have hvisible : left.visible ≠ right.visible :=
      fun heq => hidentifiers (hdetermines heq)
    exact ⟨fun heq => hvisible (hcanonical.mp heq), fun heq => hvisible (hhuman.mp heq)⟩

/-- What is nested in a generic type is lost; the last of the segments may have an arity. -/
theorem genericName_of_nested_types :
    [(⟨"System.Int32", []⟩ : TypeRef)] ≠ [] ∧
    canonicalName ⟨"Outer\x601+A", [⟨"System.Int32", []⟩]⟩ =
      canonicalName ⟨"Outer\x601+B", [⟨"System.Int32", []⟩]⟩ ∧
    canonicalName ⟨"Outer+A\x601", [⟨"System.Int32", []⟩]⟩ ≠
      canonicalName ⟨"Outer+B\x601", [⟨"System.Int32", []⟩]⟩ := by
  let bare (identifier : List Char)
      (clean : (identifier.all fun c => !isDelimiter c) = true) : Segment :=
    ⟨identifier, none, by simpa using clean, by simp⟩
  let unary (identifier : List Char)
      (clean : (identifier.all fun c => !isDelimiter c) = true) : Segment :=
    ⟨identifier, some ['1'], by simpa using clean, by rintro _ ⟨⟩; simp⟩
  have hne : [(⟨"System.Int32", []⟩ : TypeRef)] ≠ [] := List.cons_ne_nil _ _
  have lost := genericName_distinguishes_iff
    ⟨unary "Outer".toList (by decide), [(true, bare ['A'] (by decide))]⟩
    ⟨unary "Outer".toList (by decide), [(true, bare ['B'] (by decide))]⟩ hne
  have kept := genericName_distinguishes_iff
    ⟨bare "Outer".toList (by decide), [(true, unary ['A'] (by decide))]⟩
    ⟨bare "Outer".toList (by decide), [(true, unary ['B'] (by decide))]⟩ hne
  refine ⟨hne, lost.1.mpr rfl, ?_⟩
  exact (kept.2.2.1.mpr (fun heq => absurd heq (by decide)) (by decide)).1

/-- Types nested in a generic type are written like the generic type itself. -/
theorem nested_in_generic_same_name :
    canonicalName ⟨"N.Outer\x601+A", [⟨"System.Int32", []⟩]⟩ = "N.Outer\x7bSystem.Int32\x7d" ∧
    canonicalName ⟨"N.Outer\x601+B", [⟨"System.Int32", []⟩]⟩ = "N.Outer\x7bSystem.Int32\x7d" ∧
    canonicalName ⟨"N.Outer\x601", [⟨"System.Int32", []⟩]⟩ = "N.Outer\x7bSystem.Int32\x7d" ∧
    humanName ⟨"N.Outer\x601+A", [⟨"System.Int32", []⟩]⟩ = "N.Outer&lt;int&gt;" ∧
    humanName ⟨"N.Outer\x601+B", [⟨"System.Int32", []⟩]⟩ = "N.Outer&lt;int&gt;" ∧
    humanName ⟨"N.Outer\x601", [⟨"System.Int32", []⟩]⟩ = "N.Outer&lt;int&gt;" := by
  decide

end TypeRef

end ApiDocs.Metadata
