import ApiDocs.Proofs.Prose.Alignment
import ApiDocs.Proofs.Text.Stripped

namespace ApiDocs

/-! Prose that has something in it besides blanks.  A node renders to such a text, or it has no
content and renders to the empty text. -/

namespace Text

def Written (text : String) : Prop :=
  ∃ c ∈ text.toList, isBlank c = false

theorem not_written_empty : ¬ Written "" := by
  simp [Written]

theorem Written.append_right {text : String} (h : Written text) (rest : String) :
    Written (text ++ rest) := by
  obtain ⟨c, hmem, hc⟩ := h
  exact ⟨c, by simp [hmem], hc⟩

theorem Written.append_left {text : String} (h : Written text) (start : String) :
    Written (start ++ text) := by
  obtain ⟨c, hmem, hc⟩ := h
  exact ⟨c, by simp [hmem], hc⟩

/-- A text that is empty if there is nothing to say, and written if there is. -/
structure EmptyOrWritten (silent : Prop) (text : String) : Prop where
  empty : silent → text = ""
  written : ¬ silent → Written text

namespace EmptyOrWritten

variable {silent other : Prop} {text rest : String}

theorem eq_empty_or_written (h : EmptyOrWritten silent text) : text = "" ∨ Written text := by
  by_cases hsilent : silent
  · exact .inl (h.empty hsilent)
  · exact .inr (h.written hsilent)

theorem silent_of_eq_empty (h : EmptyOrWritten silent "") : silent := by
  by_contra hspoken
  exact not_written_empty (h.written hspoken)

theorem append (hfirst : EmptyOrWritten silent text) (hsecond : EmptyOrWritten other rest) :
    EmptyOrWritten (silent ∧ other) (text ++ rest) where
  empty := by
    rintro ⟨hsilent, hother⟩
    rw [hfirst.empty hsilent, hsecond.empty hother]
    rfl
  written := by
    intro hspoken
    by_cases hsilent : silent
    · have hother : ¬ other := fun hother => hspoken ⟨hsilent, hother⟩
      exact (hsecond.written hother).append_left text
    · exact (hfirst.written hsilent).append_right rest

end EmptyOrWritten

theorem all_isBlank_outdentChars (width : Nat) (cs : List Char) :
    (outdentChars width cs).all isBlank = cs.all isBlank := by
  induction cs with
  | nil => rfl
  | cons c rest ih =>
      rw [outdentChars_cons]
      split
      · next h => rw [h, List.all_cons, List.all_cons, all_isBlank_dropSpaces, ih]
      · rw [List.all_cons, List.all_cons, ih]

theorem emptyOrWritten_fixIndentation (text : String) (width : Int) :
    EmptyOrWritten (allBlank text = true) (fixIndentation text width) := by
  have hnil : (fixIndentation text width).toList = [] ↔ allBlank text = true := by
    rw [toList_fixIndentation, stripChars_eq_nil_iff, all_isBlank_outdentChars, allBlank]
  constructor
  · intro hblank
    exact String.toList_eq_nil_iff.mp (hnil.mpr hblank)
  · intro hwritten
    have hstart := isBlank_head?_stripChars (outdentChars width.toNat text.toList)
    rw [← toList_fixIndentation] at hstart
    cases hlist : (fixIndentation text width).toList with
    | nil => exact absurd (hnil.mp hlist) hwritten
    | cons c rest => exact ⟨c, by simp [hlist], hstart c (by simp [hlist])⟩

end Text

namespace Prose

open Text (Written EmptyOrWritten)

/-- Nodes without content: blanks, comments, and elements around such that stand for nothing
themselves. -/
inductive Contentless : Xml.Node → Prop where
  | text {value : String} (hblank : Text.allBlank value = true) : Contentless (.text value)
  | other (value : String) : Contentless (.other value)
  | element {tag : String} {attributes : List (String × String)} {position : Xml.Position}
      {children : List Xml.Node} (hsee : tag ≠ "see") (hcode : tag ≠ "code")
      (hchildren : ∀ child ∈ children, Contentless child) :
      Contentless (.element tag attributes position children)

theorem contentless_text_iff {value : String} :
    Contentless (.text value) ↔ Text.allBlank value = true :=
  ⟨fun | .text hblank => hblank, .text⟩

theorem contentless_element_iff {tag : String} {attributes : List (String × String)}
    {position : Xml.Position} {children : List Xml.Node} :
    Contentless (.element tag attributes position children) ↔
      tag ≠ "see" ∧ tag ≠ "code" ∧ ∀ child ∈ children, Contentless child :=
  ⟨fun | .element hsee hcode hchildren => ⟨hsee, hcode, hchildren⟩,
    fun ⟨hsee, hcode, hchildren⟩ => .element hsee hcode hchildren⟩

theorem written_of_reference {context output : String} {see : Xml.Element}
    (h : reference context see = .ok output) : Written output := by
  rw [reference] at h
  split at h
  · split at h
    · cases h
    · cases h
      exact ⟨'[', by simp, by decide⟩
  · split at h
    · cases h
      exact ⟨'\x60', by simp, by decide⟩
    · cases h

theorem written_codeBlock (language text : String) (column : Nat) :
    Written (codeBlock language text column) :=
  ⟨'\x60', by simp [codeBlock], by decide⟩

mutual

/-- Text is stripped, and references and code bring characters of their own, so that by
induction on the tree no output is blank without being empty. -/
theorem emptyOrWritten_render {language context : String} {column : Nat} {output : String} :
    (node : Xml.Node) → render language context column node = .ok output →
      EmptyOrWritten (Contentless node) output
  | .text value, h => by
      cases h
      rw [contentless_text_iff]
      exact Text.emptyOrWritten_fixIndentation value column
  | .other value, h => by
      cases h
      exact ⟨fun _ => rfl, fun hcontent => absurd (.other value) hcontent⟩
  | .element tag attributes position children, h => by
      rw [contentless_element_iff]
      rw [render] at h
      split at h
      · next hsee =>
          exact ⟨fun hsilent => absurd hsee hsilent.1, fun _ => written_of_reference h⟩
      · next hsee =>
          split at h
          · next hcode =>
              cases h
              exact ⟨fun hsilent => absurd hcode hsilent.2.1,
                fun _ => written_codeBlock language _ column⟩
          · next hcode =>
              have hchildren := emptyOrWritten_renderAll children h
              exact ⟨fun hsilent => hchildren.empty hsilent.2.2,
                fun hspoken => hchildren.written fun hsilent => hspoken ⟨hsee, hcode, hsilent⟩⟩

theorem emptyOrWritten_renderAll {language context : String} {column : Nat}
    {output : String} :
    (nodes : List Xml.Node) → render.renderAll language context column nodes = .ok output →
      EmptyOrWritten (∀ node ∈ nodes, Contentless node) output
  | [], h => by
      cases h
      exact ⟨fun _ => rfl, fun hspoken => absurd (by simp) hspoken⟩
  | node :: rest, h => by
      rw [render.renderAll] at h
      rw [List.forall_mem_cons]
      split at h
      · cases h
      · next hfirst =>
          split at h
          · cases h
          · next hothers =>
              cases h
              exact (emptyOrWritten_render node hfirst).append
                (emptyOrWritten_renderAll rest hothers)

end

theorem renderAll_of_forall_mem {language context : String} {column : Nat}
    {nodes : List Xml.Node}
    (h : ∀ node ∈ nodes, render language context column node = .ok "") :
    render.renderAll language context column nodes = .ok "" := by
  induction nodes with
  | nil => rfl
  | cons node rest ih =>
      rw [List.forall_mem_cons] at h
      rw [render.renderAll, h.1, ih h.2]
      rfl

theorem Contentless.render {node : Xml.Node} (h : Contentless node) (language context : String)
    (column : Nat) : render language context column node = .ok "" := by
  induction h generalizing column with
  | @text value hblank =>
      have hempty := (Text.emptyOrWritten_fixIndentation value column).empty hblank
      rw [Prose.render, hempty]
  | other value => rw [Prose.render]
  | element hsee hcode hchildren ih =>
      rw [Prose.render, if_neg hsee, if_neg hcode]
      exact renderAll_of_forall_mem fun child hmem => ih child hmem _

theorem render_eq_empty_iff {language context : String} {column : Nat} {node : Xml.Node} :
    render language context column node = .ok "" ↔ Contentless node := by
  constructor
  · intro h
    exact (emptyOrWritten_render node h).silent_of_eq_empty
  · intro h
    exact h.render language context column

end Prose

end ApiDocs
