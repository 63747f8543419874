import ApiDocs.Markdown.Section
import ApiDocs.Proofs.Text.Indented

namespace ApiDocs.Markdown

/-! Bodies of members.  A body is made of blocks, and stands two columns to the right so that
it belongs to the item of its member. -/

open Metadata
open Documentation (Entry)

namespace MemberItem

theorem ne_empty_of_mem_present {text? : Option String} {text : String}
    (h : text ∈ present text?) : text ≠ "" := by
  unfold present at h
  split at h
  · next found =>
      split at h
      · cases h
      · next hne =>
          rw [List.mem_singleton.mp h]
          simpa using hne
  · cases h

theorem intercalate_ne_empty {separator text : String} {rest : List String} (h : text ≠ "") :
    separator.intercalate (text :: rest) ≠ "" := by
  rw [ne_eq, ← String.toList_eq_nil_iff] at h ⊢
  rw [String.toList_intercalate, List.map_cons]
  cases rest with
  | nil => rwa [List.map_nil, List.intercalate_singleton]
  | cons next more =>
      rw [List.map_cons, List.intercalate_cons_cons, List.append_assoc, List.append_eq_nil_iff]
      exact fun hboth => h hboth.1

theorem ne_empty_of_mem_parameterBlock {entry : Entry} {parameters : List Parameter}
    {block : String} (h : block ∈ parameterBlock entry parameters) : block ≠ "" := by
  unfold parameterBlock at h
  split at h
  · cases h
  · rw [List.mem_singleton.mp h]
    exact intercalate_ne_empty (by decide)

theorem ne_empty_of_mem_blocks {config : Config} {entry : Entry} {parameters : List Parameter}
    {block : String} (h : block ∈ blocks config entry parameters) : block ≠ "" := by
  have hreturns : ∀ text, "**Returns:** " ++ text ≠ "" := by
    intro text
    simp
  rw [blocks, List.mem_append, List.mem_append, List.mem_map] at h
  rcases h with (⟨summary, -, rfl⟩ | hremarks) | hdetails
  · simp
  · exact ne_empty_of_mem_present hremarks
  · split at hdetails
    · rw [List.mem_append, List.mem_map] at hdetails
      rcases hdetails with ⟨returns, -, rfl⟩ | hparameters
      · exact hreturns returns
      · exact ne_empty_of_mem_parameterBlock hparameters
    · cases hdetails

theorem intercalate_blocks_eq_empty_iff {config : Config} {entry : Entry}
    {parameters : List Parameter} :
    "\n".intercalate (blocks config entry parameters) = "" ↔
      blocks config entry parameters = [] := by
  have hblocks : ∀ block ∈ blocks config entry parameters, block ≠ "" :=
    fun _ => ne_empty_of_mem_blocks
  cases hall : blocks config entry parameters with
  | nil => simp
  | cons block rest =>
      have hblock := hblocks block (hall ▸ List.mem_cons_self)
      simp [intercalate_ne_empty hblock]

/-- A body holds its blocks line by line, indented so that they can be read back, and it is
empty only if there is no block. -/
theorem indents_bodyOf (config : Config) (entry : Entry) (parameters : List Parameter) :
    Text.Indents ("\n".intercalate (blocks config entry parameters))
        (bodyOf config entry parameters) ∧
      (bodyOf config entry parameters = "" ↔ blocks config entry parameters = []) := by
  have hbody : bodyOf config entry parameters =
      Text.indent ("\n".intercalate (blocks config entry parameters)) :=
    Text.intercalate_map_indent (blocks config entry parameters)
  rw [hbody, Text.indent_eq_empty_iff, intercalate_blocks_eq_empty_iff]
  exact ⟨Text.indents_indent _, Iff.rfl⟩

end MemberItem

end ApiDocs.Markdown
