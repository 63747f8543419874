import ApiDocs.Proofs.Xml.Building
import ApiDocs.Proofs.Xml.Linked

namespace ApiDocs.Xml

/-! The tree of a document and its events.  The tree gives back the events inside its root, it
does not depend on the pieces in which character data comes, and its links are sound. -/

namespace Builder

theorem step_text_text (builder : Builder) (first second : String) :
    (builder.step (.text first)).step (.text second) =
      builder.step (.text (first ++ second)) := by
  obtain ⟨root, opened⟩ := builder
  cases opened with
  | nil => rfl
  | cons inner outer =>
      obtain ⟨tag, attributes, position, children⟩ := inner
      cases children with
      | nil => rfl
      | cons node rest =>
          cases node with
          | text value => simp [step, add, prepend, String.append_assoc]
          | other => rfl
          | element => rfl

theorem foldl_step_prepend (event : Event) (rest : List Event) (builder : Builder) :
    (event.prepend rest).foldl step builder = rest.foldl step (builder.step event) := by
  cases event with
  | text data =>
      cases rest with
      | nil => rfl
      | cons next more =>
          cases next with
          | text value =>
              rw [Event.prepend, List.foldl_cons, List.foldl_cons, step_text_text]
          | _ => rfl
  | _ => rfl

theorem foldl_step_merge (events : List Event) (builder : Builder) :
    (Event.merge events).foldl step builder = events.foldl step builder := by
  induction events generalizing builder with
  | nil => rfl
  | cons event rest ih =>
      rw [Event.merge_cons, foldl_step_prepend, ih, List.foldl_cons]

end Builder

namespace Element

theorem ofEvents_merge (events : List Event) : ofEvents (Event.merge events) = ofEvents events :=
  congrArg Builder.root (Builder.foldl_step_merge events Builder.empty)

theorem ofEvents_eq_of_characters {first second : List Event} (hfirst : .text "" ∉ first)
    (hsecond : .text "" ∉ second)
    (h : first.flatMap Event.characters = second.flatMap Event.characters) :
    ofEvents first = ofEvents second := by
  rw [← ofEvents_merge first, ← ofEvents_merge second, ← Event.merge_flatMap_characters hfirst,
    ← Event.merge_flatMap_characters hsecond, h]

/-- What the tree of a document has from the events of the document. -/
structure Reproduces (root : Element) (events : List Event) : Prop where
  /-- Between the tags of the root stand the events of its children.  What stands outside of
  the root makes no difference. -/
  inside : ∃ before inside behind,
    events = before ++ root.start :: (inside ++ .finish :: behind) ∧
      (∀ event ∈ before ++ behind, event.isTag = false) ∧
      Event.depth? 0 inside = some 0 ∧
      Node.events.ofAll root.children = Event.merge (inside.map Event.carried) ∧
      ∀ others more : List Event, (∀ event ∈ others ++ more, event.isTag = false) →
        ofEvents (others ++ root.start :: (inside ++ .finish :: more)) = some root
  parted : ∀ element ∈ root.toNode.elements, Node.Parted element.children
  extents : root.toNode.elements.map extent = Event.extents events
  linked : ∃ linked, LinkedElement.ofEvents events = some linked ∧ linked.bare = root ∧
    linked.toNode.AttachedTo none ∧ linked.toNode.numbers.Nodup
  pieces : ∀ others : List Event, .text "" ∉ others →
    others.flatMap Event.characters = events.flatMap Event.characters →
      ofEvents others = some root

theorem events_toNode_root {root : Element} {inside : List Event}
    (hinside : Node.events.ofAll root.children = Event.merge (inside.map Event.carried))
    (behind : List Event) :
    Event.merge ((root.start :: (inside ++ .finish :: behind)).map Event.carried) =
      root.toNode.events ++ Event.merge (behind.map Event.carried) := by
  have hstart : root.start.carried = root.start := rfl
  have hfinish : Event.carried .finish = .finish := rfl
  rw [List.map_cons, List.map_append, List.map_cons, hstart, hfinish, Event.merge_cons,
    Event.prepend_of_not_isText rfl, Event.merge_append_cons rfl, ← hinside]
  simp [toNode, Node.events, start]

/-- A document with one root element and no empty piece of character data has a tree, and the
tree is true to its events. -/
theorem exists_reproduces {events : List Event} (hnested : Event.depth? 0 events = some 0)
    (hroot : Event.roots 0 events = 1) (hpieces : .text "" ∉ events) :
    ∃ root, ofEvents events = some root ∧ root.Reproduces events := by
  obtain ⟨before, tag, attributes, position, inside, behind, rfl, hbefore, hinside, hbehind⟩ :=
    Event.exists_root hnested hroot
  obtain ⟨root, hstart, hchildren, htree⟩ := ofEvents_root tag attributes position hinside
  rw [← hstart] at hpieces ⊢
  have houtside : ∀ event ∈ before ++ behind, event.isTag = false :=
    List.forall_mem_append.mpr ⟨hbefore, hbehind⟩
  have hofEvents := htree before behind houtside
  have hevents := events_toNode_root hchildren []
  have hmerged : Event.Merged root.toNode.events := by
    rw [List.map_nil, Event.merge_nil, List.append_nil] at hevents
    rw [← hevents]
    exact Event.merged_merge _
  refine ⟨root, hofEvents, ?_, Node.parted_elements hmerged, ?_, ?_, ?_⟩
  · exact ⟨before, inside, behind, rfl, houtside, hinside, hchildren, htree⟩
  · have hrest : Event.extents (Event.merge (behind.map Event.carried)) = [] := by
      have hskip := Event.extents_append_of_outside hbehind []
      rw [List.append_nil] at hskip
      rw [Event.extents_merge, Event.extents_map_carried, hskip, Event.extents]
    calc root.toNode.elements.map extent
        = Event.extents (root.toNode.events ++ Event.merge (behind.map Event.carried)) := by
          rw [Node.extents_events, hrest, List.append_nil]
      _ = Event.extents (Event.merge
            ((root.start :: (inside ++ .finish :: behind)).map Event.carried)) := by
          rw [events_toNode_root hchildren]
      _ = Event.extents (root.start :: (inside ++ .finish :: behind)) := by
          rw [Event.extents_merge, Event.extents_map_carried]
      _ = Event.extents (before ++ root.start :: (inside ++ .finish :: behind)) :=
          (Event.extents_append_of_outside hbefore _).symm
  · -- The linked tree is the same tree once its links are dropped.
    have hmap := LinkedElement.map_bare_ofEvents
      (before ++ root.start :: (inside ++ .finish :: behind))
    rw [hofEvents, Option.map_eq_some_iff] at hmap
    obtain ⟨linked, hlinked, hbare⟩ := hmap
    exact ⟨linked, hlinked, hbare, LinkedElement.attachedTo_of_ofEvents hlinked,
      LinkedElement.nodup_of_ofEvents hlinked⟩
  · intro others hothers hcharacters
    rw [ofEvents_eq_of_characters hothers hpieces hcharacters, hofEvents]

/-- Character data in pieces, markup of every kind inside the root, and a comment and an
instruction outside of it. -/
theorem exists_reproduces_of_pieces :
    let events : List Event := [.comment "c", .start "doc" [("a", "1")] ⟨2, 0⟩, .text "x",
      .text "y", .comment "c", .text "z", .start "see" [] ⟨2, 9⟩, .instruction "p" "q",
      .text "t", .finish, .text "\n", .text " ", .finish, .instruction "p" ""]
    (Event.depth? 0 events = some 0 ∧ Event.roots 0 events = 1 ∧ .text "" ∉ events) ∧
      ∃ root, ofEvents events = some root ∧ root.Reproduces events := by
  intro events
  have hnested : Event.depth? 0 events = some 0 := by decide
  have hroot : Event.roots 0 events = 1 := by decide
  have hpieces : .text "" ∉ events := by decide
  exact ⟨⟨hnested, hroot, hpieces⟩, exists_reproduces hnested hroot hpieces⟩

end Element

end ApiDocs.Xml
