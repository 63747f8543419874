import ApiDocs.Proofs.Documentation.Without
import ApiDocs.Proofs.Prose.Written

namespace ApiDocs

/-! Sections without content.  No section is blank without being empty, and where empty sections
do not show, the index of a document looks as it would without the sections that have no
content. -/

open Text (Written)

theorem rel_of_map_eq {α β : Type} {f : α → β} {left? right? : Option α}
    (h : left?.map f = right?.map f) :
    Option.Rel (fun left right => f left = f right) left? right? := by
  cases left? with
  | none =>
      cases right? with
      | none => exact .none
      | some right => cases h
  | some left =>
      cases right? with
      | none => cases h
      | some right => exact .some (Option.some.inj h)

namespace Documentation

def nonEmpty (text? : Option String) : Option String :=
  text?.filter fun text => !text.isEmpty

def Entry.withoutEmpty (entry : Entry) : Entry :=
  { entry with
    summary? := nonEmpty entry.summary?
    remarks? := nonEmpty entry.remarks?
    returns? := nonEmpty entry.returns?
    example? := nonEmpty entry.example? }

/-- No section of an entry is blank without being empty. -/
structure Entry.IsWritten (entry : Entry) : Prop where
  summary : ∀ text ∈ entry.summary?, text = "" ∨ Written text
  remarks : ∀ text ∈ entry.remarks?, text = "" ∨ Written text
  returns : ∀ text ∈ entry.returns?, text = "" ∨ Written text
  examples : ∀ text ∈ entry.example?, text = "" ∨ Written text

/-! Sections that are read. -/

theorem proseOf_eq_ok_iff {language context output : String} {column : Nat}
    {element : Xml.Element} :
    proseOf language context column element = .ok output ↔
      Prose.render language context column element.toNode = .ok output := by
  rw [proseOf]
  cases Prose.render language context column element.toNode with
  | error error => simp [Except.mapError]
  | ok other => simp [Except.mapError]

theorem written_of_sectionOf {language context : String} {member : Xml.Element} {tag : String}
    {section? : Option String} (h : sectionOf language context member tag = .ok section?) :
    ∀ text ∈ section?, text = "" ∨ Written text := by
  rw [sectionOf] at h
  split at h
  · cases h
    simp
  · next element _ =>
      cases hprose : proseOf language context member.position.column element with
      | error error =>
          rw [hprose] at h
          cases h
      | ok output =>
          rw [hprose] at h
          cases h
          rintro _ ⟨⟩
          have hrender := proseOf_eq_ok_iff.mp hprose
          exact (Prose.emptyOrWritten_render _ hrender).eq_empty_or_written

theorem Entry.isWritten_of_read {language : String} {descriptor : Descriptor}
    {member : Xml.Element} {entry : Entry}
    (h : Entry.read language descriptor member = .ok entry) : entry.IsWritten := by
  simp only [Entry.read, Outcome.except_bind_eq_ok_iff] at h
  obtain ⟨summary?, hsummary, remarks?, hremarks, returns?, hreturns, example?, hexample,
    parameters, -, hentry⟩ := h
  cases hentry
  exact ⟨written_of_sectionOf hsummary, written_of_sectionOf hremarks,
    written_of_sectionOf hreturns, written_of_sectionOf hexample⟩

theorem Index.isWritten_of_get? {config : Config} {root : Xml.Element} {index : Index}
    {name : String} {entry : Entry} (h : (build config root).result = .ok index)
    (hentry : index.get? name = some entry) : entry.IsWritten := by
  rw [get?_addMembers (addMembers_of_build h)] at hentry
  have hempty : Table.get? (Table.empty : Index) name = none := rfl
  rw [hempty, Option.or_none] at hentry
  have hmem := List.mem_of_find?_eq_some hentry
  obtain ⟨member, -, hmember⟩ := List.mem_filterMap.mp (List.mem_reverse.mp hmem)
  obtain ⟨descriptor, other, -, hread, hother⟩ :=
    exists_of_entryOf?_isSome (Option.isSome_of_eq_some hmember)
  rw [hmember] at hother
  cases hother
  exact Entry.isWritten_of_read hread

/-! Sections that are taken away. -/

theorem sectionOf_of_contentless {language context : String} {member element : Xml.Element}
    {tag : String} (hfind : member.find? tag = some element)
    (hcontentless : Prose.Contentless element.toNode) :
    sectionOf language context member tag = .ok (some "") := by
  have hrender := hcontentless.render language context member.position.column
  rw [sectionOf, hfind]
  simp only [proseOf_eq_ok_iff.mpr hrender]
  rfl

section

variable {member element : Xml.Element} {tag : String}
  (hfind : member.find? tag = some element) (hcontentless : Prose.Contentless element.toNode)
include hfind hcontentless

theorem map_sectionOf_without (language context other : String) :
    (sectionOf language context member other).map nonEmpty =
      (sectionOf language context (member.without tag fun _ => true) other).map nonEmpty := by
  by_cases hother : other = tag
  · have habsent := Xml.Element.find?_without_self member tag
    have hnone : sectionOf language context (member.without tag fun _ => true) tag =
        .ok none := by
      rw [sectionOf, habsent]
    rw [hother, sectionOf_of_contentless hfind hcontentless, hnone]
    rfl
  · have hsame := Xml.Element.find?_without_of_ne hother member fun _ => true
    congr 1
    apply sectionOf_congr
    · rfl
    · exact hsame.symm

variable (htag : tag ∈ sectionTags)
include htag

theorem Entry.map_read_without (language : String) (descriptor : Descriptor) :
    (Entry.read language descriptor member).map Entry.withoutEmpty =
      (Entry.read language descriptor (member.without tag fun _ => true)).map
        Entry.withoutEmpty := by
  have hparam : "param" ≠ tag := by
    rintro rfl
    exact absurd htag (by decide)
  have himportance : "importance" ≠ tag := by
    rintro rfl
    exact absurd htag (by decide)
  apply Entry.map_read_congr nonEmpty
  · rfl
  · exact (Xml.Element.named_without_of_ne hparam member _).symm
  · intro other _
    exact map_sectionOf_without hfind hcontentless language descriptor.name other
  · intro summary remarks returns shown _ _ _ _ parameters hsummary hremarks hreturns hshown
    have hsame := Xml.Element.find?_without_of_ne himportance member fun _ => true
    simp only [Entry.withoutEmpty, hsummary, hremarks, hreturns, hshown, importanceOf, hsame]

theorem fatal?_and_entryOf?_without (config : Config) :
    fatal? config member = fatal? config (member.without tag fun _ => true) ∧
      (entryOf? config member).map Entry.withoutEmpty =
        (entryOf? config (member.without tag fun _ => true)).map Entry.withoutEmpty := by
  have hname : memberDescriptor (member.without tag fun _ => true) = memberDescriptor member :=
    rfl
  rw [fatal?, fatal?, entryOf?, entryOf?, hname]
  cases memberDescriptor member with
  | error error => exact ⟨rfl, rfl⟩
  | ok descriptor =>
      have hread := Entry.map_read_without hfind hcontentless htag config.codeLanguage descriptor
      dsimp only
      generalize Entry.read config.codeLanguage descriptor member = first at hread ⊢
      generalize Entry.read config.codeLanguage descriptor
        (member.without tag fun _ => true) = second at hread ⊢
      cases first with
      | error error =>
          cases second with
          | error other =>
              cases hread
              exact ⟨rfl, rfl⟩
          | ok other => cases hread
      | ok entry =>
          cases second with
          | error error => cases hread
          | ok other => exact ⟨rfl, congrArg some (Except.ok.inj hread)⟩

end

namespace Index

theorem map_get?_withoutEmpty {config : Config} {root : Xml.Element}
    {members : List Xml.Element} {index : Index} (hroot : IsDocument root members)
    (h : (build config root).result = .ok index) (name : String) :
    (index.get? name).map Entry.withoutEmpty =
      (members.filterMap fun member =>
        (entryOf? config member).map Entry.withoutEmpty).reverse.find?
          fun entry => entry.name = name := by
  rw [get?_build hroot h, ← List.map_filterMap, ← List.map_reverse, List.find?_map]
  rfl

/-- An index that is read from a document with a section that has no content looks, where
empty sections do not show, like one that is read without it. -/
theorem map_build_without {config : Config} {root other member element : Xml.Element}
    {before after : List Xml.Element} {tag : String} {β : Type} {view : Index → β}
    (htag : tag ∈ sectionTags) (hfind : member.find? tag = some element)
    (hcontentless : Prose.Contentless element.toNode)
    (hroot : IsDocument root (before ++ member :: after))
    (hother : IsDocument other (before ++ (member.without tag fun _ => true) :: after))
    (hview : ∀ first second : Index,
      (∀ name, Option.Rel (fun left right => left.withoutEmpty = right.withoutEmpty)
        (first.get? name) (second.get? name)) → view first = view second) :
    (build config root).result.map view = (build config other).result.map view := by
  -- The documents differ in one member, which ends the work in both, or is left out of both, or
  -- is read in both to entries that differ in an empty section at most.
  obtain ⟨hfatal, hentry⟩ := fatal?_and_entryOf?_without hfind hcontentless htag config
  have hended : (before ++ member :: after).findSome? (fatal? config) =
      (before ++ (member.without tag fun _ => true) :: after).findSome? (fatal? config) := by
    rw [List.findSome?_append, List.findSome?_append, List.findSome?_cons, List.findSome?_cons,
      hfatal]
  have hentries : ((before ++ member :: after).filterMap fun member =>
        (entryOf? config member).map Entry.withoutEmpty) =
      (before ++ (member.without tag fun _ => true) :: after).filterMap fun member =>
        (entryOf? config member).map Entry.withoutEmpty := by
    rw [List.filterMap_append, List.filterMap_append, List.filterMap_cons, List.filterMap_cons,
      hentry]
  have hbuild := build_result hroot config
  have hotherBuild := build_result hother config
  rw [hended] at hbuild
  split at hbuild
  · next error herror =>
      rw [herror] at hotherBuild
      rw [hbuild, hotherBuild]
  · next hnone =>
      rw [hnone] at hotherBuild
      rw [hbuild, hotherBuild]
      refine congrArg Except.ok (hview _ _ fun name => rel_of_map_eq ?_)
      rw [map_get?_withoutEmpty hroot hbuild, map_get?_withoutEmpty hother hotherBuild,
        hentries]

end Index

end Documentation

end ApiDocs
