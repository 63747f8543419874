import ApiDocs.Proofs.Documentation.Lenient

namespace ApiDocs

/-! Members without some of their children.  A member is read by its name, its importance, its
sections and its parameters, so that two members document the same, seen in some way, when
these are the same in that way. -/

theorem Outcome.except_map_bind_congr {ε α β μ ν δ : Type} {first other : Except ε α}
    {next : α → Except ε β} {otherNext : α → Except ε ν} {last : β → δ} {otherLast : ν → δ}
    (view : α → μ) (hfirst : first.map view = other.map view)
    (hnext : ∀ value otherValue, view value = view otherValue →
      (next value).map last = (otherNext otherValue).map otherLast) :
    (first >>= next).map last = (other >>= otherNext).map otherLast := by
  cases first with
  | error error =>
      cases other with
      | error otherError =>
          cases hfirst
          rfl
      | ok otherValue => cases hfirst
  | ok value =>
      cases other with
      | error otherError => cases hfirst
      | ok otherValue => exact hnext value otherValue (Except.ok.inj hfirst)

namespace Xml.Element

theorem named_without_of_ne {tag other : String} (hne : other ≠ tag) (element : Element)
    (isUnwanted : Element → Bool) :
    (element.without tag isUnwanted).named other = element.named other := by
  obtain ⟨name, attributes, position, children⟩ := element
  rw [without, named, named, elements, elements]
  induction children with
  | nil => rfl
  | cons node rest ih =>
      cases hnode : node.element? with
      | none => simpa [hnode] using ih
      | some child =>
          by_cases htag : child.tag = tag
          · have hother : ¬ tag = other := fun heq => hne heq.symm
            cases hunwanted : isUnwanted child <;>
              simpa [hnode, htag, hunwanted, hother] using ih
          · by_cases hother : child.tag = other <;> simpa [hnode, htag, hother, hne] using ih

theorem find?_without_of_ne {tag other : String} (hne : other ≠ tag) (element : Element)
    (isUnwanted : Element → Bool) :
    (element.without tag isUnwanted).find? other = element.find? other := by
  rw [find?_eq_head?_named, find?_eq_head?_named, named_without_of_ne hne]

theorem find?_without_self (element : Element) (tag : String) :
    (element.without tag fun _ => true).find? tag = none := by
  rw [find?_eq_head?_named, named_without]
  simp

end Xml.Element

namespace Documentation

def sectionTags : List String := ["summary", "remarks", "returns", "example"]

theorem sectionOf_congr {member other : Xml.Element} {tag : String}
    (hcolumn : member.position.column = other.position.column)
    (hfind : member.find? tag = other.find? tag) (language context : String) :
    sectionOf language context member tag = sectionOf language context other tag := by
  rw [sectionOf, sectionOf, hcolumn, hfind]

/-- Members with the same parameters and with sections that are the same in a view document
the same in every view that follows from that one. -/
theorem Entry.map_read_congr {α β : Type} {language : String} {descriptor : Descriptor}
    {member other : Xml.Element} {last otherLast : Entry → β} (view : Option String → α)
    (hcolumn : member.position.column = other.position.column)
    (hparams : member.named "param" = other.named "param")
    (hsections : ∀ tag ∈ sectionTags,
      (sectionOf language descriptor.name member tag).map view =
        (sectionOf language descriptor.name other tag).map view)
    (hlast : ∀ summary remarks returns shown otherSummary otherRemarks otherReturns otherShown
      parameters, view summary = view otherSummary → view remarks = view otherRemarks →
      view returns = view otherReturns → view shown = view otherShown →
      last ⟨descriptor.kind, descriptor.name, importanceOf member, summary, remarks, returns,
          shown, parameters⟩ =
        otherLast ⟨descriptor.kind, descriptor.name, importanceOf other, otherSummary,
          otherRemarks, otherReturns, otherShown, parameters⟩) :
    (Entry.read language descriptor member).map last =
      (Entry.read language descriptor other).map otherLast := by
  simp only [sectionTags, List.forall_mem_cons, List.not_mem_nil, false_implies, implies_true,
    and_true] at hsections
  obtain ⟨hsummary, hremarks, hreturns, hshown⟩ := hsections
  rw [Entry.read, Entry.read, hcolumn, hparams]
  apply Outcome.except_map_bind_congr view hsummary
  intro summary otherSummary hsummary
  apply Outcome.except_map_bind_congr view hremarks
  intro remarks otherRemarks hremarks
  apply Outcome.except_map_bind_congr view hreturns
  intro returns otherReturns hreturns
  apply Outcome.except_map_bind_congr view hshown
  intro shown otherShown hshown
  apply Outcome.except_map_bind_congr id rfl
  rintro parameters _ rfl
  exact congrArg Except.ok (hlast _ _ _ _ _ _ _ _ parameters hsummary hremarks hreturns hshown)

end Documentation

end ApiDocs
