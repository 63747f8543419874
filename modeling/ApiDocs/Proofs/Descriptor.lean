import ApiDocs.Descriptor
import Mathlib.Data.List.Basic

namespace ApiDocs

/-! What is read from a descriptor.  Every text is one of three things: a descriptor, malformed,
or of the form of a descriptor with something that is no kind letter before the colon. -/

/-- The letters that stand for kinds; constructors have none. -/
inductive MemberKind.HasLetter : MemberKind → String → Prop
  | type : HasLetter .type "T"
  | method : HasLetter .method "M"
  | event : HasLetter .event "E"
  | field : HasLetter .field "F"
  | property : HasLetter .property "P"

theorem MemberKind.hasLetter_iff_mem {kind : MemberKind} {letter : String} :
    kind.HasLetter letter ↔ (letter, kind) ∈ letters := by
  constructor
  · intro h
    cases h <;> decide
  · intro hmem
    simp only [letters, List.mem_cons, Prod.mk.injEq, List.not_mem_nil, or_false] at hmem
    rcases hmem with ⟨rfl, rfl⟩ | ⟨rfl, rfl⟩ | ⟨rfl, rfl⟩ | ⟨rfl, rfl⟩ | ⟨rfl, rfl⟩ <;>
      constructor

theorem MemberKind.ofLetter?_of_mem {letter : String} {kind : MemberKind}
    (hmem : (letter, kind) ∈ letters) :
    ofLetter? letter = some kind ∧ ':' ∉ letter.toList := by
  simp only [letters, List.mem_cons, Prod.mk.injEq, List.not_mem_nil, or_false] at hmem
  rcases hmem with ⟨rfl, rfl⟩ | ⟨rfl, rfl⟩ | ⟨rfl, rfl⟩ | ⟨rfl, rfl⟩ | ⟨rfl, rfl⟩ <;> decide

theorem MemberKind.ofLetter?_eq_some_iff {letter : String} {kind : MemberKind} :
    ofLetter? letter = some kind ↔ kind.HasLetter letter := by
  constructor
  · intro h
    obtain ⟨before, after, hletters, -⟩ := List.lookup_eq_some_iff.mp h
    rw [hasLetter_iff_mem, hletters]
    exact List.mem_append_right before List.mem_cons_self
  · intro h
    exact (ofLetter?_of_mem (hasLetter_iff_mem.mp h)).1

theorem MemberKind.ofLetter?_eq_none_iff {letter : String} :
    ofLetter? letter = none ↔ ∀ kind : MemberKind, ¬ kind.HasLetter letter := by
  simp only [Option.eq_none_iff_forall_ne_some, ne_eq, ofLetter?_eq_some_iff]

namespace Descriptor

inductive Reads (text : String) : Except Error Descriptor → Prop
  | descriptor {kind : MemberKind} {letter name : String} (hletter : kind.HasLetter letter)
      (hne : name ≠ "") (hname : ':' ∉ name.toList) (htext : letter ++ ":" ++ name = text) :
      Reads text (.ok ⟨kind, name⟩)
  | malformed (h : text.toList.count ':' ≠ 1 ∨ ∃ before, text = before ++ ":") :
      Reads text (.error (.malformed text))
  | unknownKind {letter name : String} (hkind : ∀ kind : MemberKind, ¬ kind.HasLetter letter)
      (hletter : ':' ∉ letter.toList) (hne : name ≠ "") (hname : ':' ∉ name.toList)
      (htext : letter ++ ":" ++ name = text) :
      Reads text (.error (.unknownKind letter))

theorem split_colon {letter name : String} (hletter : ':' ∉ letter.toList)
    (hname : ':' ∉ name.toList) :
    Text.split ':' (letter ++ ":" ++ name) = [letter, name] := by
  have hcolon : ":".toList = [':'] := rfl
  rw [Text.split, String.toList_append, String.toList_append, hcolon, List.append_assoc,
    List.singleton_append, Text.splitChars_append_cons, Text.splitChars_of_not_mem hletter,
    Text.splitChars_of_not_mem hname]
  simp

theorem parse_letter {letter name : String} {kind : MemberKind}
    (hmem : (letter, kind) ∈ MemberKind.letters) (hname : ':' ∉ name.toList)
    (hne : name ≠ "") :
    parse (letter ++ ":" ++ name) = .ok ⟨kind, name⟩ := by
  obtain ⟨hkind, hletter⟩ := MemberKind.ofLetter?_of_mem hmem
  have hempty : name.isEmpty = false := by simpa using hne
  simp [parse, split_colon hletter hname, hempty, kindOfLetter, hkind, Except.map]

theorem parse_of_no_letter {letter name : String}
    (hkind : ∀ kind : MemberKind, ¬ kind.HasLetter letter) (hletter : ':' ∉ letter.toList)
    (hname : ':' ∉ name.toList) (hne : name ≠ "") :
    parse (letter ++ ":" ++ name) = .error (.unknownKind letter) := by
  have hempty : name.isEmpty = false := by simpa using hne
  simp [parse, split_colon hletter hname, hempty, kindOfLetter,
    MemberKind.ofLetter?_eq_none_iff.mpr hkind, Except.map]

theorem count_of_split {text letter name : String} (h : Text.split ':' text = [letter, name]) :
    text.toList.count ':' = 1 := by
  have hlength := Text.length_splitChars ':' text.toList
  rw [← List.length_map String.ofList, ← Text.split, h] at hlength
  exact (Nat.succ.inj hlength).symm

theorem eq_of_split {text letter name : String} (h : Text.split ':' text = [letter, name]) :
    letter ++ ":" ++ name = text := by
  have htext := Text.intercalate_split ':' text
  rw [h, String.intercalate_cons_cons, String.intercalate_singleton] at htext
  exact htext

theorem not_mem_of_split {text letter name : String}
    (h : Text.split ':' text = [letter, name]) :
    ':' ∉ letter.toList ∧ ':' ∉ name.toList := by
  have hparts : ∀ part ∈ Text.split ':' text, ':' ∉ part.toList := by
    intro part hmem
    obtain ⟨piece, hpiece, rfl⟩ := List.mem_map.mp hmem
    rw [String.toList_ofList]
    exact Text.not_mem_splitChars ':' text.toList piece hpiece
  rw [h] at hparts
  exact ⟨hparts letter (by simp), hparts name (by simp)⟩

theorem parse_of_malformed {text : String}
    (h : text.toList.count ':' ≠ 1 ∨ ∃ before, text = before ++ ":") :
    parse text = .error (.malformed text) := by
  rw [parse]
  split
  · next letter name hsplit =>
      rcases h with hcount | ⟨before, hbefore⟩
      · exact absurd (count_of_split hsplit) hcount
      · -- What is behind the only colon would end in another one.
        have hname : name = "" := by
          by_contra hne
          have hends : text.toList.getLast? = some ':' := by
            rw [hbefore, String.toList_append]
            exact List.getLast?_concat
          rw [← eq_of_split hsplit, String.toList_append,
            List.getLast?_append_of_ne_nil _ (by simpa using hne)] at hends
          exact (not_mem_of_split hsplit).2 (List.mem_of_getLast? hends)
        rw [if_pos (by simp [hname])]
  · rfl

theorem reads_parse (text : String) : Reads text (parse text) := by
  rw [parse]
  split
  · next letter name hsplit =>
      obtain ⟨hletter, hname⟩ := not_mem_of_split hsplit
      have htext := eq_of_split hsplit
      by_cases hne : name = ""
      · rw [if_pos (by simp [hne])]
        refine .malformed (.inr ⟨letter, ?_⟩)
        rw [← htext, hne, String.append_empty]
      · rw [if_neg (by simpa using hne), kindOfLetter]
        cases hkind : MemberKind.ofLetter? letter with
        | some kind =>
            exact .descriptor (MemberKind.ofLetter?_eq_some_iff.mp hkind) hne hname htext
        | none =>
            exact .unknownKind (MemberKind.ofLetter?_eq_none_iff.mp hkind) hletter hne hname htext
  · next hsplit =>
      refine .malformed (.inl fun hcount => ?_)
      have hlength := Text.length_splitChars ':' text.toList
      rw [hcount, ← List.length_map String.ofList, ← Text.split] at hlength
      obtain ⟨letter, name, hparts⟩ := List.length_eq_two.mp hlength
      exact hsplit letter name hparts

theorem parse_eq_iff {text : String} {result : Except Error Descriptor} :
    parse text = result ↔ Reads text result := by
  constructor
  · rintro rfl
    exact reads_parse text
  · intro h
    cases h with
    | descriptor hletter hne hname htext =>
        rw [← htext]
        exact parse_letter (MemberKind.hasLetter_iff_mem.mp hletter) hname hne
    | malformed h => exact parse_of_malformed h
    | unknownKind hkind hletter hne hname htext =>
        rw [← htext]
        exact parse_of_no_letter hkind hletter hname hne

example :
    parse ":N.C" = .error (.unknownKind "") ∧ parse "TM:N.C" = .error (.unknownKind "TM") ∧
      parse "X:" = .error (.malformed "X:") ∧ parse "X:N:C" = .error (.malformed "X:N:C") := by
  decide

end Descriptor

end ApiDocs
