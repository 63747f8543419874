import ApiDocs.Metadata.TypeRef
import Mathlib.Data.List.Forall2
import Mathlib.Data.List.TakeWhile

namespace ApiDocs.Metadata.TypeRef

/-! Names of types in identifiers can be read back.  A comma may belong to the suffix
of a name or stand between two names; which of the two it does is decided by the
character behind the run of suffix characters that it is part of. -/

/-- The characters that have a meaning of their own in identifiers. -/
def isReserved (c : Char) : Bool :=
  isSuffixChar c || c = '@' || c = '\x7b' || c = '\x7d' || c = '(' || c = ')'

def isCanonicalSuffixChar (c : Char) : Bool :=
  c = '[' || c = ']' || c = ',' || c = '*' || c = '@'

/-- A base that is there and holds no reserved character. -/
structure PlainBase (chars : List Char) : Prop where
  ne_nil : chars ≠ []
  clean : ∀ c ∈ chars, isReserved c = false

instance (chars : List Char) : Decidable (PlainBase chars) :=
  decidable_of_iff (chars ≠ [] ∧ (chars.all fun c => !isReserved c) = true) (by
    rw [List.all_eq_true]
    constructor
    · intro h
      exact ⟨h.1, fun c hmem => by simpa using h.2 c hmem⟩
    · intro h
      exact ⟨h.ne_nil, fun c hmem => by simpa using h.clean c hmem⟩)

mutual

/-- References whose names are plain at every depth.  The base of a generic one does
not start with its arity. -/
def Plain : TypeRef → Prop
  | ⟨name, []⟩ => PlainBase (baseChars name.toList)
  | ⟨name, first :: rest⟩ =>
      PlainBase (baseChars name.toList) ∧ dropArity (baseChars name.toList) ≠ [] ∧
        Plain first ∧ PlainAll rest

def PlainAll : List TypeRef → Prop
  | [] => True
  | ref :: rest => Plain ref ∧ PlainAll rest

end

mutual

/-- References that differ at most in how nesting is written and, when they are
generic, in what stands behind the first backtick of a base. -/
def Equivalent : TypeRef → TypeRef → Prop
  | ⟨left, []⟩, ⟨right, []⟩ =>
      suffixChars left.toList = suffixChars right.toList ∧ base left = base right
  | ⟨left, first :: rest⟩, ⟨right, other :: others⟩ =>
      suffixChars left.toList = suffixChars right.toList ∧
        dropArity (base left) = dropArity (base right) ∧
        Equivalent first other ∧ EquivalentAll rest others
  | _, _ => False

def EquivalentAll : List TypeRef → List TypeRef → Prop
  | [], [] => True
  | first :: rest, other :: others => Equivalent first other ∧ EquivalentAll rest others
  | _, _ => False

end

theorem plainAll_iff (refs : List TypeRef) :
    PlainAll refs ↔ ∀ ref ∈ refs, ref.Plain := by
  induction refs with
  | nil => simp [PlainAll]
  | cons ref rest ih => simp [PlainAll, ih]

theorem equivalentAll_iff_forall₂ (left right : List TypeRef) :
    EquivalentAll left right ↔ List.Forall₂ Equivalent left right := by
  induction left generalizing right with
  | nil => cases right <;> simp [EquivalentAll]
  | cons ref rest ih =>
      cases right with
      | nil => simp [EquivalentAll]
      | cons other others => simp [EquivalentAll, ih]

def canonicalList : List TypeRef → List Char
  | [] => []
  | first :: rest => canonical first ++ canonicalRest rest

theorem canonical_generic (name : String) (first : TypeRef) (rest : List TypeRef) :
    canonical ⟨name, first :: rest⟩ =
      dropArity (base name) ++
        ('\x7b' :: (canonicalList (first :: rest) ++ '\x7d' :: canonicalSuffix name)) := by
  simp [canonical, canonicalList]

theorem canonicalList_eq_intercalate (refs : List TypeRef) :
    canonicalList refs = [','].intercalate (refs.map canonical) := by
  induction refs with
  | nil => rfl
  | cons first rest ih =>
      cases rest with
      | nil => simp [canonicalList, canonicalRest]
      | cons next more =>
          rw [List.map_cons, List.map_cons, List.intercalate_cons_cons, ← List.map_cons, ← ih]
          simp [canonicalList, canonicalRest]

/-! Bases and suffixes of plain names -/

theorem isReserved_of_canonicalSuffixChar {c : Char}
    (h : isCanonicalSuffixChar c = true) : isReserved c = true := by
  simp only [isCanonicalSuffixChar, Bool.or_eq_true, decide_eq_true_eq] at h
  rcases h with (((rfl | rfl) | rfl) | rfl) | rfl <;> decide

theorem ne_brace_of_canonicalSuffixChar {c : Char}
    (h : isCanonicalSuffixChar c = true) : c ≠ '\x7b' := by
  rintro rfl
  exact absurd h (by decide)

theorem isSuffixChar_of_mem_suffixChars {cs : List Char} {c : Char}
    (h : c ∈ suffixChars cs) : isSuffixChar c = true := by
  rw [suffixChars, List.mem_reverse] at h
  exact List.mem_takeWhile_imp h

theorem canonicalSuffix_chars (name : String) :
    ∀ c ∈ canonicalSuffix name, isCanonicalSuffixChar c = true := by
  intro c hmem
  obtain ⟨original, horiginal, rfl⟩ := List.mem_map.mp hmem
  have hsuffix := isSuffixChar_of_mem_suffixChars horiginal
  simp only [isSuffixChar, Bool.or_eq_true, decide_eq_true_eq] at hsuffix
  rcases hsuffix with (((rfl | rfl) | rfl) | rfl) | rfl <;> decide

theorem restore_canonicalSuffix (name : String) :
    (canonicalSuffix name).map (fun c => if c = '@' then '&' else c) =
      suffixChars name.toList := by
  rw [canonicalSuffix, List.map_map]
  refine (List.map_congr_left ?_).trans (List.map_id _)
  intro c hmem
  have hsuffix := isSuffixChar_of_mem_suffixChars hmem
  simp only [isSuffixChar, Bool.or_eq_true, decide_eq_true_eq] at hsuffix
  rcases hsuffix with (((rfl | rfl) | rfl) | rfl) | rfl <;> rfl

theorem suffixChars_of_canonicalSuffix {left right : String}
    (h : canonicalSuffix left = canonicalSuffix right) :
    suffixChars left.toList = suffixChars right.toList := by
  rw [← restore_canonicalSuffix, h, restore_canonicalSuffix]

theorem canonicalSuffix_congr {left right : String}
    (h : suffixChars left.toList = suffixChars right.toList) :
    canonicalSuffix left = canonicalSuffix right := by
  rw [canonicalSuffix, canonicalSuffix, h]

theorem clean_dotNested {cs : List Char} (h : ∀ c ∈ cs, isReserved c = false) :
    ∀ c ∈ dotNested cs, isReserved c = false := by
  intro c hmem
  obtain ⟨original, horiginal, rfl⟩ := List.mem_map.mp hmem
  split
  · decide
  · exact h original horiginal

theorem dropArity_dotNested (cs : List Char) :
    dropArity (dotNested cs) = dotNested (dropArity cs) := by
  induction cs with
  | nil => rfl
  | cons c rest ih =>
      simp only [dotNested, dropArity, List.map_cons] at ih ⊢
      by_cases hplus : c = '+'
      · subst hplus
        simp [ih]
      · by_cases htick : c = '\x60'
        · simp [htick]
        · simp [hplus, htick, ih]

/-! What may stand behind a name -/

/-- What stands behind a name in a list: the end of the list, or a comma and the next
name, which starts with a character of its base. -/
inductive Boundary : List Char → Prop
  | close {c : Char} {rest : List Char} (hclose : c = '\x7d' ∨ c = ')') :
      Boundary (c :: rest)
  | next {c : Char} {rest : List Char} (hclean : isReserved c = false) :
      Boundary (',' :: c :: rest)

def StartsReserved (cs : List Char) : Prop :=
  ∃ c rest, cs = c :: rest ∧ isReserved c = true

theorem Boundary.startsReserved {rest : List Char} (boundary : Boundary rest) :
    StartsReserved rest := by
  cases boundary with
  | close hclose => exact ⟨_, _, rfl, by rcases hclose with rfl | rfl <;> decide⟩
  | next hclean => exact ⟨_, _, rfl, by decide⟩

theorem Boundary.ne_suffix_append {rest other more : List Char} {c : Char}
    (boundary : Boundary rest) (otherBoundary : Boundary other)
    (hc : isCanonicalSuffixChar c = true)
    (hmore : ∀ d ∈ more, isCanonicalSuffixChar d = true) :
    rest ≠ c :: (more ++ other) := by
  intro heq
  cases boundary with
  | close hclose =>
      obtain ⟨rfl, -⟩ := List.cons.inj heq
      rcases hclose with rfl | rfl <;> exact absurd hc (by decide)
  | @next d tail hclean =>
      obtain ⟨-, htail⟩ := List.cons.inj heq
      cases more with
      | nil =>
          obtain ⟨e, others, hother, hreserved⟩ := otherBoundary.startsReserved
          rw [List.nil_append, hother] at htail
          obtain ⟨rfl, -⟩ := List.cons.inj htail
          exact absurd hreserved (by simp [hclean])
      | cons e others =>
          obtain ⟨rfl, -⟩ := List.cons.inj htail
          have hreserved := isReserved_of_canonicalSuffixChar (hmore d (by simp))
          exact absurd hreserved (by simp [hclean])

theorem suffix_append_inj {left right restLeft restRight : List Char}
    (hleft : ∀ c ∈ left, isCanonicalSuffixChar c = true)
    (hright : ∀ c ∈ right, isCanonicalSuffixChar c = true)
    (boundaryLeft : Boundary restLeft) (boundaryRight : Boundary restRight)
    (h : left ++ restLeft = right ++ restRight) :
    left = right ∧ restLeft = restRight := by
  induction left generalizing right with
  | nil =>
      cases right with
      | nil => exact ⟨rfl, h⟩
      | cons c more =>
          exact absurd h (boundaryLeft.ne_suffix_append boundaryRight
            (hright c (by simp)) (fun d hmem => hright d (by simp [hmem])))
  | cons c more ih =>
      cases right with
      | nil =>
          exact absurd h.symm (boundaryRight.ne_suffix_append boundaryLeft
            (hleft c (by simp)) (fun d hmem => hleft d (by simp [hmem])))
      | cons d others =>
          obtain ⟨rfl, htail⟩ := List.cons.inj h
          obtain ⟨rfl, hrest⟩ :=
            ih (fun d hmem => hleft d (by simp [hmem]))
              (fun d hmem => hright d (by simp [hmem])) htail
          exact ⟨rfl, hrest⟩

theorem takeWhile_clean_append {cs rest : List Char}
    (hclean : ∀ c ∈ cs, isReserved c = false) (hrest : StartsReserved rest) :
    (cs ++ rest).takeWhile (fun c => !isReserved c) = cs := by
  obtain ⟨c, others, rfl, hreserved⟩ := hrest
  rw [List.takeWhile_append_of_pos (by simpa using hclean), List.takeWhile_cons]
  simp [hreserved]

theorem clean_append_inj {left right restLeft restRight : List Char}
    (hleft : ∀ c ∈ left, isReserved c = false)
    (hright : ∀ c ∈ right, isReserved c = false)
    (startsLeft : StartsReserved restLeft) (startsRight : StartsReserved restRight)
    (h : left ++ restLeft = right ++ restRight) :
    left = right ∧ restLeft = restRight := by
  have hbase : left = right := by
    rw [← takeWhile_clean_append hleft startsLeft, h,
      takeWhile_clean_append hright startsRight]
  subst hbase
  exact ⟨rfl, List.append_cancel_left h⟩

/-! Plain references -/

theorem PlainBase.base_clean {name : String} (plain : PlainBase (baseChars name.toList)) :
    ∀ c ∈ base name, isReserved c = false :=
  clean_dotNested plain.clean

theorem PlainBase.base_ne_nil {name : String} (plain : PlainBase (baseChars name.toList)) :
    base name ≠ [] := by
  intro hnil
  exact plain.ne_nil (List.map_eq_nil_iff.mp hnil)

theorem PlainBase.dropArity_clean {name : String}
    (plain : PlainBase (baseChars name.toList)) :
    ∀ c ∈ dropArity (base name), isReserved c = false := by
  intro c hmem
  exact plain.base_clean c ((List.takeWhile_sublist _).subset hmem)

theorem dropArity_base_ne_nil {name : String}
    (h : dropArity (baseChars name.toList) ≠ []) : dropArity (base name) ≠ [] := by
  rw [base, dropArity_dotNested]
  intro hnil
  exact h (List.map_eq_nil_iff.mp hnil)

theorem Plain.canonical_eq_cons {ref : TypeRef} (plain : ref.Plain) :
    ∃ c rest, ref.canonical = c :: rest ∧ isReserved c = false := by
  obtain ⟨name, arguments⟩ := ref
  cases arguments with
  | nil =>
      rw [Plain] at plain
      obtain ⟨c, rest, hbase⟩ := List.exists_cons_of_ne_nil plain.base_ne_nil
      refine ⟨c, rest ++ canonicalSuffix name, ?_, plain.base_clean c (by simp [hbase])⟩
      rw [canonical, hbase, List.cons_append]
  | cons first others =>
      rw [Plain] at plain
      obtain ⟨hbase, hstem, -, -⟩ := plain
      obtain ⟨c, rest, hcons⟩ := List.exists_cons_of_ne_nil (dropArity_base_ne_nil hstem)
      refine ⟨c, rest ++ '\x7b' :: (canonicalList (first :: others) ++
        '\x7d' :: canonicalSuffix name), ?_, hbase.dropArity_clean c (by simp [hcons])⟩
      rw [canonical_generic, hcons, List.cons_append]

theorem PlainAll.boundary {refs : List TypeRef} (plain : PlainAll refs) {c : Char}
    (hclose : c = '\x7d' ∨ c = ')') (rest : List Char) :
    Boundary (canonicalRest refs ++ c :: rest) := by
  cases refs with
  | nil => exact .close hclose
  | cons ref others =>
      rw [PlainAll] at plain
      obtain ⟨d, tail, hcons, hclean⟩ := plain.1.canonical_eq_cons
      rw [canonicalRest, hcons]
      exact .next hclean

theorem canonicalSuffix_append_eq_cons (name : String) {rest : List Char}
    (boundary : Boundary rest) :
    ∃ c others, canonicalSuffix name ++ rest = c :: others ∧ isReserved c = true ∧
      c ≠ '\x7b' := by
  cases hsuffix : canonicalSuffix name with
  | cons c more =>
      have hc := canonicalSuffix_chars name c (by simp [hsuffix])
      exact ⟨c, more ++ rest, rfl, isReserved_of_canonicalSuffixChar hc,
        ne_brace_of_canonicalSuffixChar hc⟩
  | nil =>
      cases boundary with
      | close hclose =>
          refine ⟨_, _, rfl, ?_⟩
          rcases hclose with rfl | rfl <;> decide
      | next hclean => exact ⟨_, _, rfl, by decide⟩

theorem canonical_simple_ne_generic {name other : String} {first : TypeRef}
    {rest : List TypeRef} {restLeft restRight : List Char}
    (plain : PlainBase (baseChars name.toList))
    (otherPlain : PlainBase (baseChars other.toList)) (boundary : Boundary restLeft) :
    canonical ⟨name, []⟩ ++ restLeft ≠ canonical ⟨other, first :: rest⟩ ++ restRight := by
  intro heq
  obtain ⟨c, others, hcons, hreserved, hbrace⟩ :=
    canonicalSuffix_append_eq_cons name boundary
  rw [canonical, canonical_generic, List.append_assoc, List.append_assoc,
    List.cons_append] at heq
  obtain ⟨-, htail⟩ := clean_append_inj plain.base_clean otherPlain.dropArity_clean
    ⟨c, others, hcons, hreserved⟩ ⟨'\x7b', _, rfl, by decide⟩ heq
  rw [hcons] at htail
  exact hbrace (List.cons.inj htail).1

/-! Reading back -/

mutual

theorem canonical_append_inj :
    (left right : TypeRef) → left.Plain → right.Plain →
      {restLeft restRight : List Char} → Boundary restLeft → Boundary restRight →
      left.canonical ++ restLeft = right.canonical ++ restRight →
      Equivalent left right ∧ restLeft = restRight
  | ⟨name, []⟩, ⟨other, []⟩, plain, otherPlain, restLeft, restRight, boundary,
      otherBoundary, heq => by
      rw [Plain] at plain otherPlain
      rw [canonical, canonical, List.append_assoc, List.append_assoc] at heq
      obtain ⟨c, tail, hcons, hreserved, -⟩ := canonicalSuffix_append_eq_cons name boundary
      obtain ⟨d, others, hother, hotherReserved, -⟩ :=
        canonicalSuffix_append_eq_cons other otherBoundary
      obtain ⟨hbase, htail⟩ := clean_append_inj plain.base_clean otherPlain.base_clean
        ⟨c, tail, hcons, hreserved⟩ ⟨d, others, hother, hotherReserved⟩ heq
      obtain ⟨hsuffix, hrest⟩ := suffix_append_inj (canonicalSuffix_chars name)
        (canonicalSuffix_chars other) boundary otherBoundary htail
      rw [Equivalent]
      exact ⟨⟨suffixChars_of_canonicalSuffix hsuffix, hbase⟩, hrest⟩
  | ⟨name, []⟩, ⟨other, second :: others⟩, plain, otherPlain, _, _, boundary, _, heq => by
      rw [Plain] at plain
      rw [Plain] at otherPlain
      exact absurd heq (canonical_simple_ne_generic plain otherPlain.1 boundary)
  | ⟨name, first :: rest⟩, ⟨other, []⟩, plain, otherPlain, _, _, _, otherBoundary, heq => by
      rw [Plain] at plain
      rw [Plain] at otherPlain
      exact absurd heq.symm (canonical_simple_ne_generic otherPlain plain.1 otherBoundary)
  | ⟨name, first :: rest⟩, ⟨other, second :: others⟩, plain, otherPlain, restLeft,
      restRight, boundary, otherBoundary, heq => by
      rw [Plain] at plain otherPlain
      obtain ⟨hbase, -, hfirst, hrest⟩ := plain
      obtain ⟨hotherBase, -, hsecond, hothers⟩ := otherPlain
      simp only [canonical_generic, canonicalList, List.append_assoc, List.cons_append] at heq
      obtain ⟨hstem, htail⟩ := clean_append_inj hbase.dropArity_clean
        hotherBase.dropArity_clean ⟨'\x7b', _, rfl, by decide⟩ ⟨'\x7b', _, rfl, by decide⟩
        heq
      obtain ⟨hhead, hmore⟩ := canonical_append_inj first second hfirst hsecond
        (hrest.boundary (.inl rfl) _) (hothers.boundary (.inl rfl) _)
        (List.cons.inj htail).2
      obtain ⟨harguments, hend⟩ :=
        canonicalRest_append_inj rest others hrest hothers (.inl rfl) hmore
      obtain ⟨hsuffix, hleft⟩ := suffix_append_inj (canonicalSuffix_chars name)
        (canonicalSuffix_chars other) boundary otherBoundary hend
      rw [Equivalent]
      exact ⟨⟨suffixChars_of_canonicalSuffix hsuffix, hstem, hhead, harguments⟩, hleft⟩

theorem canonicalRest_append_inj :
    (left right : List TypeRef) → PlainAll left → PlainAll right →
      {c : Char} → {restLeft restRight : List Char} → c = '\x7d' ∨ c = ')' →
      canonicalRest left ++ c :: restLeft = canonicalRest right ++ c :: restRight →
      EquivalentAll left right ∧ restLeft = restRight
  | [], [], _, _, _, _, _, _, heq => ⟨trivial, (List.cons.inj heq).2⟩
  | [], _ :: _, _, _, _, _, _, hclose, heq => by
      rw [canonicalRest, canonicalRest] at heq
      obtain ⟨rfl, -⟩ := List.cons.inj heq
      exact absurd hclose (by decide)
  | _ :: _, [], _, _, _, _, _, hclose, heq => by
      rw [canonicalRest, canonicalRest] at heq
      obtain ⟨rfl, -⟩ := List.cons.inj heq
      exact absurd hclose (by decide)
  | first :: rest, second :: others, plain, otherPlain, c, restLeft, restRight, hclose,
      heq => by
      rw [PlainAll] at plain otherPlain
      simp only [canonicalRest, List.cons_append, List.append_assoc] at heq
      obtain ⟨hhead, hmore⟩ := canonical_append_inj first second plain.1 otherPlain.1
        (plain.2.boundary hclose _) (otherPlain.2.boundary hclose _) (List.cons.inj heq).2
      obtain ⟨hrest, hend⟩ :=
        canonicalRest_append_inj rest others plain.2 otherPlain.2 hclose hmore
      exact ⟨⟨hhead, hrest⟩, hend⟩

end

mutual

theorem Equivalent.canonical_eq :
    {left right : TypeRef} → Equivalent left right → left.canonical = right.canonical
  | ⟨name, []⟩, ⟨other, []⟩, equivalent => by
      rw [Equivalent] at equivalent
      rw [canonical, canonical, equivalent.2, canonicalSuffix_congr equivalent.1]
  | ⟨_, []⟩, ⟨_, _ :: _⟩, equivalent => by
      rw [Equivalent] at equivalent
      · exact equivalent.elim
      all_goals simp
  | ⟨_, _ :: _⟩, ⟨_, []⟩, equivalent => by
      rw [Equivalent] at equivalent
      · exact equivalent.elim
      all_goals simp
  | ⟨name, first :: rest⟩, ⟨other, second :: others⟩, equivalent => by
      rw [Equivalent] at equivalent
      obtain ⟨hsuffix, hstem, hhead, hrest⟩ := equivalent
      rw [canonical, canonical, canonicalSuffix_congr hsuffix, hstem,
        hhead.canonical_eq, hrest.canonicalRest_eq]

theorem EquivalentAll.canonicalRest_eq :
    {left right : List TypeRef} → EquivalentAll left right →
      canonicalRest left = canonicalRest right
  | [], [], _ => rfl
  | first :: rest, second :: others, equivalent => by
      rw [EquivalentAll] at equivalent
      rw [canonicalRest, canonicalRest, equivalent.1.canonical_eq,
        equivalent.2.canonicalRest_eq]

end

theorem canonicalList_eq_iff {left right : List TypeRef}
    (plain : PlainAll left) (otherPlain : PlainAll right) :
    canonicalList left = canonicalList right ↔ EquivalentAll left right := by
  cases left with
  | nil =>
      cases right with
      | nil => simp [EquivalentAll]
      | cons ref others =>
          rw [PlainAll] at otherPlain
          obtain ⟨c, rest, hcons, -⟩ := otherPlain.1.canonical_eq_cons
          simp [canonicalList, hcons, EquivalentAll]
  | cons first rest =>
      cases right with
      | nil =>
          rw [PlainAll] at plain
          obtain ⟨c, more, hcons, -⟩ := plain.1.canonical_eq_cons
          simp [canonicalList, hcons, EquivalentAll]
      | cons second others =>
          rw [PlainAll] at plain otherPlain
          rw [canonicalList, canonicalList, EquivalentAll]
          constructor
          · intro heq
            have hclosed := congrArg (· ++ [')']) heq
            simp only [List.append_assoc] at hclosed
            obtain ⟨hhead, hmore⟩ := canonical_append_inj first second plain.1 otherPlain.1
              (plain.2.boundary (.inr rfl) []) (otherPlain.2.boundary (.inr rfl) []) hclosed
            exact ⟨hhead, (canonicalRest_append_inj rest others plain.2 otherPlain.2
              (.inr rfl) hmore).1⟩
          · rintro ⟨hhead, hrest⟩
            rw [hhead.canonical_eq, hrest.canonicalRest_eq]

/-! The characters of a name in identifiers -/

mutual

/-- References with no name, at any depth, that holds a character. -/
def Avoids (c : Char) : TypeRef → Prop
  | ⟨name, arguments⟩ => c ∉ name.toList ∧ AvoidsAll c arguments

def AvoidsAll (c : Char) : List TypeRef → Prop
  | [] => True
  | ref :: rest => Avoids c ref ∧ AvoidsAll c rest

end

theorem avoidsAll_iff (c : Char) (refs : List TypeRef) :
    AvoidsAll c refs ↔ ∀ ref ∈ refs, ref.Avoids c := by
  induction refs with
  | nil => simp [AvoidsAll]
  | cons ref rest ih => simp [AvoidsAll, ih]

def punctuation : List Char := ['.', '@', '\x7b', '\x7d', ',']

theorem not_mem_map_replace {cs : List Char} {c old new : Char} (hnew : c ≠ new)
    (h : c ∉ cs) : c ∉ cs.map fun d => if d = old then new else d := by
  intro hmem
  obtain ⟨original, horiginal, heq⟩ := List.mem_map.mp hmem
  split at heq
  · exact hnew heq.symm
  · exact h (heq ▸ horiginal)

theorem not_mem_base {name : String} {c : Char} (hc : c ∉ punctuation)
    (h : c ∉ name.toList) : c ∉ base name := by
  apply not_mem_map_replace (List.ne_of_not_mem_cons hc)
  intro hmem
  rw [baseChars, List.mem_reverse] at hmem
  exact h (List.mem_reverse.mp ((List.dropWhile_sublist isSuffixChar).subset hmem))

theorem not_mem_canonicalSuffix {name : String} {c : Char} (hc : c ∉ punctuation)
    (h : c ∉ name.toList) : c ∉ canonicalSuffix name := by
  apply not_mem_map_replace (List.ne_of_not_mem_cons (List.not_mem_of_not_mem_cons hc))
  intro hmem
  rw [suffixChars, List.mem_reverse] at hmem
  exact h (List.mem_reverse.mp ((List.takeWhile_sublist isSuffixChar).subset hmem))

mutual

theorem not_mem_canonical {c : Char} (hc : c ∉ punctuation) :
    (ref : TypeRef) → ref.Avoids c → c ∉ ref.canonical
  | ⟨name, []⟩, avoids => by
      rw [Avoids] at avoids
      simp [canonical, not_mem_base hc avoids.1, not_mem_canonicalSuffix hc avoids.1]
  | ⟨name, first :: rest⟩, avoids => by
      rw [Avoids, AvoidsAll] at avoids
      obtain ⟨hname, hfirst, hrest⟩ := avoids
      have hstem : c ∉ dropArity (base name) := fun hmem =>
        not_mem_base hc hname ((List.takeWhile_sublist _).subset hmem)
      have hbraces : c ≠ '\x7b' ∧ c ≠ '\x7d' := by
        constructor <;> (rintro rfl; exact hc (by decide))
      rw [canonical_generic, canonicalList]
      simp [hstem, hbraces, not_mem_canonical hc first hfirst,
        not_mem_canonicalRest hc rest hrest, not_mem_canonicalSuffix hc hname]

theorem not_mem_canonicalRest {c : Char} (hc : c ∉ punctuation) :
    (refs : List TypeRef) → AvoidsAll c refs → c ∉ canonicalRest refs
  | [], _ => List.not_mem_nil
  | ref :: rest, avoids => by
      rw [AvoidsAll] at avoids
      have hcomma : c ≠ ',' := by
        rintro rfl
        exact hc (by decide)
      simp [canonicalRest, hcomma, not_mem_canonical hc ref avoids.1,
        not_mem_canonicalRest hc rest avoids.2]

end

theorem not_mem_canonicalList {c : Char} (hc : c ∉ punctuation) {refs : List TypeRef}
    (avoids : AvoidsAll c refs) : c ∉ canonicalList refs := by
  cases refs with
  | nil => exact List.not_mem_nil
  | cons ref rest =>
      rw [AvoidsAll] at avoids
      rw [canonicalList, List.mem_append, not_or]
      exact ⟨not_mem_canonical hc ref avoids.1, not_mem_canonicalRest hc rest avoids.2⟩

end ApiDocs.Metadata.TypeRef
