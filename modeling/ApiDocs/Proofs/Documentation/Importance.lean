import ApiDocs.Proofs.Decimal.Integer
import ApiDocs.Proofs.Documentation.Without
import ApiDocs.Proofs.Prose.Shift

namespace ApiDocs.Documentation

/-! The importance of a member.  It is the integer that the text of an element denotes, in
whatever pieces the text comes, and zero when the text is no integer. -/

/-- What an element says, without blanks around it. -/
def importanceText (element : Xml.Element) : String :=
  Text.strip (String.join element.toNode.texts)

/-- How a member is read whose first element of that name is the given one. -/
structure ReadsImportance (member element : Xml.Element) : Prop where
  literal : ∀ value, Decimal.Literal (importanceText element).toList value →
    importanceOf member = value ∧ importanceNotices member = []
  other : (∀ value, ¬ Decimal.Literal (importanceText element).toList value) →
    importanceOf member = 0 ∧ (importanceNotices member).map Notice.logged =
      [⟨.debug, "xmldoc_md.docindex",
        "ignoring non-numeric importance in line " ++ toString element.position.line⟩]
  harmless : ∀ language descriptor, Entry.read language descriptor member =
    (Entry.read language descriptor (member.without "importance" fun _ => true)).map
      fun entry => { entry with importance := importanceOf member }
  written : ∀ (number : Int) (before after : String),
    (Nat.toDigits 10 number.natAbs).length ≤ 4300 →
    Text.allBlank before = true → Text.allBlank after = true →
    String.join element.toNode.texts = before ++ toString number ++ after →
    importanceOf member = number ∧ importanceNotices member = []

theorem importance?_eq_some_iff {element : Xml.Element} {value : Int} :
    importance? element = some value ↔
      Decimal.Literal (importanceText element).toList value := by
  have htext : element.text = String.join element.toNode.texts :=
    Xml.Node.innerText_eq_join_texts element.toNode
  rw [importance?, Outcome.toOption_eq_some_iff, htext, Decimal.integer_strip_eq_ok_iff]
  rfl

section

variable {member element : Xml.Element} (h : member.find? "importance" = some element)
include h

theorem importance_of_some {value : Int} (hvalue : importance? element = some value) :
    importanceOf member = value ∧ importanceNotices member = [] := by
  rw [importanceOf, importanceNotices, h]
  simp [hvalue]

theorem importance_of_none (hnone : importance? element = none) :
    importanceOf member = 0 ∧
      importanceNotices member = [.importanceIgnored element.position.line] := by
  rw [importanceOf, importanceNotices, h]
  simp [hnone]

end

theorem importanceText_of_written {element : Xml.Element} {number : Int} {before after : String}
    (hbefore : Text.allBlank before = true) (hafter : Text.allBlank after = true)
    (htext : String.join element.toNode.texts = before ++ toString number ++ after) :
    importanceText element = toString number := by
  rw [Text.allBlank, List.all_eq_true] at hbefore hafter
  rw [importanceText, ← String.toList_inj, Text.toList_strip, htext, String.toList_append,
    String.toList_append, Text.stripChars_append hbefore hafter
      (Decimal.toList_toString_ne_nil number) (Decimal.isBlank_of_mem_toString number)]

/-- An importance is read if it is an integer, and it is ignored otherwise. -/
theorem readsImportance {member element : Xml.Element}
    (h : member.find? "importance" = some element) : ReadsImportance member element where
  literal value hliteral :=
    importance_of_some h (importance?_eq_some_iff.mpr hliteral)
  other hnone := by
    have hignored : importance? element = none := by
      rw [Option.eq_none_iff_forall_ne_some]
      intro value hvalue
      exact hnone value (importance?_eq_some_iff.mp hvalue)
    obtain ⟨hzero, hnotices⟩ := importance_of_none h hignored
    rw [hnotices]
    exact ⟨hzero, rfl⟩
  harmless language descriptor := by
    have hread : (Entry.read language descriptor member).map id =
        (Entry.read language descriptor (member.without "importance" fun _ => true)).map
          fun entry => { entry with importance := importanceOf member } := by
      apply Entry.map_read_congr id
      · rfl
      · exact (Xml.Element.named_without_of_ne (by decide) member _).symm
      · -- No section has the tag that is taken away.
        intro tag htag
        have hne : tag ≠ "importance" := by
          rintro rfl
          exact absurd htag (by decide)
        have hfind := Xml.Element.find?_without_of_ne hne member fun _ => true
        congr 1
        apply sectionOf_congr
        · rfl
        · exact hfind.symm
      · rintro summary remarks returns shown _ _ _ _ parameters rfl rfl rfl rfl
        rfl
    rwa [Except.map_id, id_eq] at hread
  written number before after hlength hbefore hafter htext := by
    have hliteral := Decimal.literal_toString hlength
    rw [← importanceText_of_written hbefore hafter htext] at hliteral
    exact importance_of_some h (importance?_eq_some_iff.mpr hliteral)

/-- A number that a comment and an element part, with an underscore between its digits. -/
theorem readsImportance_of_parted_number :
    let element : Xml.Element := ⟨"importance", [], ⟨3, 8⟩, [.text "\n  -1", .other "c",
      .element "b" [] ⟨4, 9⟩ [.text "_2", .element "i" [] ⟨4, 14⟩ [.text "0 "]], .text "\n"]⟩
    let member : Xml.Element := ⟨"member", [("name", "T:N.C")], ⟨2, 4⟩, [element.toNode]⟩
    member.find? "importance" = some element ∧ ReadsImportance member element ∧
      importanceText element = "-1_20" ∧ importanceOf member = -120 ∧
      importanceNotices member = [] := by
  intro element member
  have hfind : member.find? "importance" = some element := rfl
  exact ⟨hfind, readsImportance hfind, by decide, by decide, by decide⟩

end ApiDocs.Documentation
