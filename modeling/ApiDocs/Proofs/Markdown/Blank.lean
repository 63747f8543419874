import ApiDocs.Proofs.Documentation.Blank
import ApiDocs.Proofs.Markdown.Relevance
import ApiDocs.Proofs.Text.Indented

namespace ApiDocs

/-! Blank text on pages, of which there is none.  A block comes from a section that is not empty,
so that it is not blank either, and a page does not tell a section without content from one that
is missing. -/

open Metadata
open Text (Written)

namespace Text

theorem exists_mem_lines {cs : List Char} {c : Char} (h : c ∈ cs) :
    ∃ line ∈ lines cs, c ∈ line := by
  rw [← flatten_lines cs, List.mem_flatten] at h
  exact h

theorem Written.indent {text : String} (h : Written text) : Written (indent text) := by
  have hindent : (Text.indent text).toList = indentChars text.toList := toList_indent text
  obtain ⟨c, hmem, hc⟩ := h
  obtain ⟨line, hline, hmem⟩ := exists_mem_lines hmem
  refine ⟨c, ?_, hc⟩
  rw [hindent, indentChars, List.mem_flatMap]
  refine ⟨line, hline, ?_⟩
  rw [indentLine_of_written ⟨c, hmem, hc⟩]
  simp [hmem]

end Text

namespace Markdown

open Documentation (Index Entry IsDocument documentOf sectionTags nonEmpty)

/-- What comes of a document: the texts of all types and the page. -/
def shown (settings : Config) (types : List ExportedType) (index : Index) :
    List (Option String) × String :=
  (types.map (renderType? settings index), render settings index types)

/-- No block is blank, and a section without content shows no more than one that is missing. -/
structure NoBlankBlocks (config : Config) (root : Xml.Element) : Prop where
  empty_iff : ∀ language context column node,
    Prose.render language context column node = .ok "" ↔ Prose.Contentless node
  written : ∀ language context column node output,
    Prose.render language context column node = .ok output → output = "" ∨ Written output
  blocks : ∀ index name entry, (Index.build config root).result = .ok index →
    index.get? name = some entry →
    ∀ settings type, ∀ block ∈ (Section.build settings index type entry).blocks, Written block
  bodies : ∀ index name entry, (Index.build config root).result = .ok index →
    index.get? name = some entry →
    ∀ settings parameters, ∀ block ∈ MemberItem.blocks settings entry parameters,
      Written block ∧ Written (Text.indent block)
  absent : ∀ before member after tag element other, tag ∈ sectionTags →
    member.find? tag = some element → Prose.Contentless element.toNode →
    IsDocument root (before ++ member :: after) →
    IsDocument other (before ++ (member.without tag fun _ => true) :: after) →
    ∀ settings types,
      (Index.build config root).result.map (shown settings types) =
        (Index.build config other).result.map (shown settings types)

theorem written_of_mem_present {text? : Option String} {block : String}
    (h : ∀ text ∈ text?, text = "" ∨ Written text) (hmem : block ∈ present text?) :
    Written block := by
  cases text? with
  | none => cases hmem
  | some text =>
      rcases h text rfl with rfl | hwritten
      · cases hmem
      · rw [present] at hmem
        split at hmem
        · cases hmem
        · rwa [List.mem_singleton.mp hmem]

theorem written_of_mem_blocksOf {entry : Entry} (h : entry.IsWritten) {block : String}
    (hmem : block ∈ Section.blocksOf entry) : Written block := by
  rw [Section.blocksOf, List.mem_append, List.mem_append, List.mem_map] at hmem
  rcases hmem with (hsummary | hremarks) | ⟨text, hexample, rfl⟩
  · exact written_of_mem_present h.summary hsummary
  · exact written_of_mem_present h.remarks hremarks
  · exact (written_of_mem_present h.examples hexample).append_left _

theorem written_of_mem_parameterBlock {entry : Entry} {parameters : List Parameter}
    {block : String} (hmem : block ∈ MemberItem.parameterBlock entry parameters) :
    Written block := by
  rw [MemberItem.parameterBlock] at hmem
  split at hmem
  · cases hmem
  · next lines _ =>
      rw [List.mem_singleton.mp hmem]
      refine ⟨'*', ?_, by decide⟩
      simp

theorem written_of_mem_blocks {entry : Entry} (h : entry.IsWritten) {settings : Config}
    {parameters : List Parameter} {block : String}
    (hmem : block ∈ MemberItem.blocks settings entry parameters) : Written block := by
  rw [MemberItem.blocks, List.mem_append, List.mem_append, List.mem_map] at hmem
  rcases hmem with (⟨text, hsummary, rfl⟩ | hremarks) | hdetail
  · exact (written_of_mem_present h.summary hsummary).append_right _
  · exact written_of_mem_present h.remarks hremarks
  · split at hdetail
    · rw [List.mem_append, List.mem_map] at hdetail
      rcases hdetail with ⟨text, hreturns, rfl⟩ | hparameters
      · exact (written_of_mem_present h.returns hreturns).append_left _
      · exact written_of_mem_parameterBlock hparameters
    · cases hdetail

theorem present_nonEmpty (text? : Option String) : present (nonEmpty text?) = present text? := by
  cases text? with
  | none => rfl
  | some text =>
      by_cases htext : text = ""
      · rw [htext]
        rfl
      · rw [nonEmpty, Option.filter_some, if_pos (by simp [htext])]

theorem blocksOf_withoutEmpty (entry : Entry) :
    Section.blocksOf entry.withoutEmpty = Section.blocksOf entry := by
  simp only [Section.blocksOf, Entry.withoutEmpty, present_nonEmpty]

theorem bodyOf_withoutEmpty (settings : Config) (entry : Entry) (parameters : List Parameter) :
    MemberItem.bodyOf settings entry.withoutEmpty parameters =
      MemberItem.bodyOf settings entry parameters := by
  simp only [MemberItem.bodyOf, MemberItem.blocks, Entry.withoutEmpty, present_nonEmpty]
  rfl

section

variable {index other : Index} (h : ∀ name,
  Option.Rel (fun left right => Entry.withoutEmpty left = Entry.withoutEmpty right)
    (index.get? name) (other.get? name))
include h

theorem renderType?_of_withoutEmpty (settings : Config) (type : ExportedType) :
    renderType? settings index type = renderType? settings other type := by
  apply renderType?_congr
  · rfl
  · refine rel_mono (h type.docName) fun left right heq => ?_
    rw [← blocksOf_withoutEmpty left, heq, blocksOf_withoutEmpty]
  · intro _
    apply Category.ofType_congr
    intro _ member _
    apply MemberItem.build_congr
    refine rel_mono (h (type.memberId member)) fun left right heq => ?_
    rw [← bodyOf_withoutEmpty settings left, heq, bodyOf_withoutEmpty]

theorem shown_of_withoutEmpty (settings : Config) (types : List ExportedType) :
    shown settings types index = shown settings types other := by
  have htexts : types.map (renderType? settings index) =
      types.map (renderType? settings other) :=
    List.map_congr_left fun type _ => renderType?_of_withoutEmpty h settings type
  have hpage : render settings index types = render settings other types := by
    apply render_congr
    · intro type _
      apply Index.importance_congr
      refine rel_mono (h type.docName) fun left right heq => ?_
      exact (Entry.mk.inj heq).2.2.1
    · intro type _
      exact renderType?_of_withoutEmpty h settings type
  rw [shown, shown, htexts, hpage]

end

/-- Blank text leads to no block, neither of a type nor of a member. -/
theorem noBlankBlocks (config : Config) (root : Xml.Element) : NoBlankBlocks config root where
  empty_iff := fun _ _ _ _ => Prose.render_eq_empty_iff
  written := fun _ _ _ node _ h => (Prose.emptyOrWritten_render node h).eq_empty_or_written
  blocks := by
    intro index name entry hindex hentry settings type block hmem
    exact written_of_mem_blocksOf (Index.isWritten_of_get? hindex hentry) hmem
  bodies := by
    intro index name entry hindex hentry settings parameters block hmem
    have hwritten := written_of_mem_blocks (Index.isWritten_of_get? hindex hentry) hmem
    exact ⟨hwritten, hwritten.indent⟩
  absent := by
    intro before member after tag element other htag hfind hcontentless hroot hother settings types
    apply Index.map_build_without htag hfind hcontentless hroot hother
    intro first second h
    exact shown_of_withoutEmpty h settings types

/-- The page of a type whose summary is a comment and a paragraph of blanks. -/
theorem shown_of_blank_summary :
    let summary : Xml.Element := ⟨"summary", [], ⟨3, 8⟩,
      [.text "\n  ", .other "c", .element "para" [] ⟨4, 9⟩ [.text " \t"]]⟩
    let remarks : Xml.Node := .element "remarks" [] ⟨6, 8⟩ [.text "\n Kept.\n"]
    let member : Xml.Element :=
      ⟨"member", [("name", "T:N.C")], ⟨2, 4⟩, [summary.toNode, remarks]⟩
    let bare : Xml.Element := ⟨"member", [("name", "T:N.C")], ⟨2, 4⟩, [remarks]⟩
    let types : List ExportedType := [⟨"N.C", .classType, none, [], [], [], [], [], []⟩]
    Prose.Contentless summary.toNode ∧
      (Index.build .standard (documentOf [member])).result.map (shown .standard types) =
        (Index.build .standard (documentOf [bare])).result.map (shown .standard types) := by
  intro summary remarks member bare types
  have hempty : Prose.render "csharp" "N.C" 4 summary.toNode = .ok "" := by decide
  have hcontentless := Prose.render_eq_empty_iff.mp hempty
  refine ⟨hcontentless, ?_⟩
  exact (noBlankBlocks .standard (documentOf [member])).absent [] member [] "summary" summary
    (documentOf [bare]) (by decide) rfl hcontentless
    (Documentation.isDocument_documentOf (by decide))
    (Documentation.isDocument_documentOf (by decide)) .standard types

end Markdown

end ApiDocs
