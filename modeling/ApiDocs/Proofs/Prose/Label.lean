import ApiDocs.Prose
import ApiDocs.Proofs.Descriptor
import ApiDocs.Proofs.Name

namespace ApiDocs

/-! Labels of links.  A reference to a symbol becomes a link.  Its label is empty exactly when
the reference says nothing of its own and nothing is left of the name of the symbol inside the
member around it. -/

theorem Descriptor.name_ne_empty {text : String} {descriptor : Descriptor}
    (h : parse text = .ok descriptor) : descriptor.name ≠ "" := by
  cases parse_eq_iff.mp h with
  | descriptor hletter hne hname htext => exact hne

namespace Prose

theorem label_eq_empty_iff {target : String} (hne : target ≠ "") (ownText context : String) :
    label ownText target context = "" ↔
      Text.allBlank ownText = true ∧ Name.Vanishes target context := by
  rw [label]
  split
  · next hblank =>
      rw [Name.shorten_eq_empty_iff hne]
      exact (and_iff_right hblank).symm
  · next hwritten =>
      have hown : ownText ≠ "" := by
        rintro rfl
        exact hwritten rfl
      exact iff_of_false hown fun h => hwritten h.1

theorem reference_of_cref {see : Xml.Element} {cref : String} {target : Descriptor}
    (hcref : see.get? "cref" = some cref) (hparse : Descriptor.parse cref = .ok target)
    (context : String) :
    reference context see =
      .ok (" [" ++ label see.text target.name context ++ "](#" ++ target.name ++ ") ") := by
  rw [reference, hcref]
  simp only [hparse]

theorem render_of_cref {see : Xml.Element} {cref : String} {target : Descriptor}
    (htag : see.tag = "see") (hcref : see.get? "cref" = some cref)
    (hparse : Descriptor.parse cref = .ok target) (language context : String) (column : Nat) :
    render language context column see.toNode =
      .ok (" [" ++ label see.text target.name context ++ "](#" ++ target.name ++ ") ") := by
  rw [Xml.Element.toNode, render, if_pos htag]
  exact reference_of_cref hcref hparse context

/-- The label of a link is empty exactly for a name that ends in an empty part and shares all
that is before it with the member around it, in a reference that is blank. -/
theorem emptyLabel_iff {cref : String} {target : Descriptor}
    (hparse : Descriptor.parse cref = .ok target) (context : String) :
    (Name.shorten target.name context = "" ↔ Name.Vanishes target.name context) ∧
      ∀ (see : Xml.Element) (language : String) (column : Nat),
        see.tag = "see" → see.get? "cref" = some cref →
          ∃ label : String,
            render language context column see.toNode =
              .ok (" [" ++ label ++ "](#" ++ target.name ++ ") ") ∧
            (label = "" ↔
              Text.allBlank see.text = true ∧ Name.Vanishes target.name context) := by
  have hne := Descriptor.name_ne_empty hparse
  refine ⟨Name.shorten_eq_empty_iff hne context, ?_⟩
  intro see language column htag hcref
  exact ⟨label see.text target.name context,
    render_of_cref htag hcref hparse language context column,
    label_eq_empty_iff hne see.text context⟩

/-- A blank reference to a method, inside a property of the same type. -/
theorem emptyLabel_iff_of_method :
    let see : Xml.Element := ⟨"see", [("cref", "M:N.C.Run(N.A,N.B)")], ⟨5, 8⟩, [.text " \n "]⟩
    let target : Descriptor := ⟨.method, "N.C.Run(N.A,N.B)"⟩
    Descriptor.parse "M:N.C.Run(N.A,N.B)" = .ok target ∧ see.tag = "see" ∧
      see.get? "cref" = some "M:N.C.Run(N.A,N.B)" ∧
      (Name.shorten target.name "N.C.Item(N.A)" = "" ↔
        Name.Vanishes target.name "N.C.Item(N.A)") ∧
      ∃ label : String,
        render "csharp" "N.C.Item(N.A)" 4 see.toNode =
          .ok (" [" ++ label ++ "](#" ++ target.name ++ ") ") ∧
        (label = "" ↔
          Text.allBlank see.text = true ∧ Name.Vanishes target.name "N.C.Item(N.A)") := by
  intro see target
  have hparse : Descriptor.parse "M:N.C.Run(N.A,N.B)" = .ok target := by decide
  have hlabel := emptyLabel_iff hparse "N.C.Item(N.A)"
  exact ⟨hparse, rfl, rfl, hlabel.1, hlabel.2 see "csharp" 4 rfl rfl⟩

/-- Inside the member A.B nothing is left of a name that ends in a dot behind A, and inside
one that is only parameters nothing of another one. -/
theorem render_of_nothing_left :
    Descriptor.parse "T:A." = .ok ⟨.type, "A."⟩ ∧
      Descriptor.parse "T:A.B" = .ok ⟨.type, "A.B"⟩ ∧
      Name.shorten "A." "A.B" = "" ∧
      render "csharp" "A.B" 2 (.element "see" [("cref", "T:A.")] ⟨3, 9⟩ []) =
        .ok " [](#A.) " ∧
      Descriptor.parse "M:(A)" = .ok ⟨.method, "(A)"⟩ ∧
      Descriptor.parse "M:(B)" = .ok ⟨.method, "(B)"⟩ ∧ Name.shorten "(A)" "(B)" = "" := by
  decide

end Prose

end ApiDocs
