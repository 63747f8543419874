import ApiDocs.Proofs.Xml.Traversal

namespace ApiDocs.Xml

/-! Trees under construction.  Reading the open elements back as events gives the events since
the root opened, and so the tree gives back all that stands between the tags of its root. -/

namespace Event

theorem Merged.append_singleton {events : List Event} {event : Event} (h : Merged events)
    (hlast : event.isText = true → ∀ last ∈ events.getLast?, last.isText = false) :
    Merged (events ++ [event]) := by
  refine List.IsChain.append h (.singleton event) ?_
  intro last hmem next hnext
  rw [List.head?_cons, Option.mem_some_iff] at hnext
  subst hnext
  rintro ⟨htext, hevent⟩
  rw [hlast hevent last hmem] at htext
  exact Bool.false_ne_true htext

theorem Merged.replace_text {events : List Event} {first second : String}
    (h : Merged (events ++ [text first])) : Merged (events ++ [text second]) := by
  obtain ⟨hevents, -, hlast⟩ := List.isChain_append.mp h
  refine List.IsChain.append hevents (.singleton _) ?_
  intro last hmem next hnext
  rw [List.head?_cons, Option.mem_some_iff] at hnext
  subst hnext
  exact hlast last hmem (text first) rfl

end Event

namespace Builder

/-- The events of the elements that are open, which have no end yet. -/
def pending : List Element → List Event
  | [] => []
  | inner :: outer =>
      pending outer ++ inner.start :: Node.events.ofAll inner.children.reverse

theorem pending_cons_child (inner : Element) (outer : List Element) (node : Node) :
    pending ({ inner with children := node :: inner.children } :: outer) =
      pending (inner :: outer) ++ node.events := by
  simp [pending, Element.start, Node.events.ofAll]

theorem isText_getLast?_pending {inner : Element} (outer : List Element)
    (h : ∀ value rest, inner.children ≠ .text value :: rest) :
    ∀ last ∈ (pending (inner :: outer)).getLast?, last.isText = false := by
  obtain ⟨tag, attributes, position, children⟩ := inner
  cases children with
  | nil => simp [pending, Node.events.ofAll, Element.start, Event.isText]
  | cons node rest =>
      have hchild := pending_cons_child ⟨tag, attributes, position, rest⟩ outer node
      simp only at hchild
      rw [hchild]
      cases node with
      | text value => exact absurd rfl (h value rest)
      | other value => simp [Node.events, Event.isText]
      | element childTag childAttributes childPosition children =>
          rw [Node.events, ← List.cons_append, ← List.append_assoc, List.getLast?_concat]
          simp [Event.isText]

/-- What a builder with open elements comes to by an event that leaves one open. -/
structure Advance (opened : List Element) (event : Event) (advanced : List Element) : Prop where
  ne_nil : advanced ≠ []
  depth : ∀ rest, Event.depth? (opened.length - 1) (event :: rest) =
    Event.depth? (advanced.length - 1) rest
  merge : ∀ rest, Event.merge (pending opened ++ event.carried :: rest) =
    Event.merge (pending advanced ++ rest)
  merged : Event.Merged (pending opened) → Event.Merged (pending advanced)

theorem Advance.of_append {opened advanced : List Element} {event : Event}
    (hne : advanced ≠ [])
    (hdepth : ∀ rest, Event.depth? (opened.length - 1) (event :: rest) =
      Event.depth? (advanced.length - 1) rest)
    (hpending : pending advanced = pending opened ++ [event.carried])
    (hlast : event.carried.isText = true →
      ∀ last ∈ (pending opened).getLast?, last.isText = false) :
    Advance opened event advanced where
  ne_nil := hne
  depth := hdepth
  merge rest := by rw [hpending, List.append_assoc, List.singleton_append]
  merged h := by
    rw [hpending]
    exact h.append_singleton hlast

theorem advance_add (root : Option Element) (inner : Element) (outer : List Element)
    {event : Event} {node : Node} (hevent : event.isTag = false)
    (hnode : node.events = [event.carried]) :
    ∃ advanced, add node ⟨root, inner :: outer⟩ = ⟨root, advanced⟩ ∧
      Advance (inner :: outer) event advanced := by
  refine ⟨_, rfl, ?_⟩
  have hdepth : ∀ rest, Event.depth? outer.length (event :: rest) =
      Event.depth? outer.length rest := Event.depth?_cons hevent outer.length
  obtain ⟨tag, attributes, position, children⟩ := inner
  by_cases hfollows : ∃ data value rest, node = .text data ∧ children = .text value :: rest
  · -- The open element keeps its children, the last of which has grown by the text.
    obtain ⟨data, value, rest, rfl, rfl⟩ := hfollows
    have hevent : event.carried = .text data := by
      simpa [Node.events] using hnode.symm
    have hbefore := pending_cons_child ⟨tag, attributes, position, rest⟩ outer (.text value)
    have hafter :=
      pending_cons_child ⟨tag, attributes, position, rest⟩ outer (.text (value ++ data))
    simp only [Node.events] at hbefore hafter
    refine ⟨List.cons_ne_nil _ _, hdepth, ?_, ?_⟩
    · intro others
      simp only [prepend]
      rw [hbefore, hafter, hevent, List.append_assoc, List.append_assoc,
        List.singleton_append, List.singleton_append, Event.merge_text_text]
    · intro hmerged
      simp only [prepend]
      rw [hbefore] at hmerged
      rw [hafter]
      exact hmerged.replace_text
  · have hprepend : prepend node children = node :: children := by
      cases node with
      | text data =>
          cases children with
          | nil => rfl
          | cons next rest =>
              cases next with
              | text value => exact absurd ⟨data, value, rest, rfl, rfl⟩ hfollows
              | other => rfl
              | element => rfl
      | other => rfl
      | element => rfl
    rw [hprepend]
    refine .of_append (List.cons_ne_nil _ _) hdepth ?_ ?_
    · rw [pending_cons_child ⟨tag, attributes, position, children⟩ outer node, hnode]
    · intro htext
      refine isText_getLast?_pending outer ?_
      rintro value rest rfl
      cases node with
      | text data => exact hfollows ⟨data, value, rest, rfl, rfl⟩
      | other other =>
          have hcarried : event.carried = .comment other := by
            simpa [Node.events] using hnode.symm
          simp [hcarried, Event.isText] at htext
      | element => simp [Node.events] at hnode

theorem advance_close (root : Option Element) (inner next : Element) (outer : List Element) :
    ∃ advanced, close ⟨root, inner :: next :: outer⟩ = ⟨root, advanced⟩ ∧
      Advance (inner :: next :: outer) .finish advanced := by
  refine ⟨_, rfl, .of_append (List.cons_ne_nil _ _) (fun rest => rfl) ?_ ?_⟩
  · simp [prepend, Element.toNode, Node.events, Node.events.ofAll, pending, Element.start,
      Event.carried]
  · simp [Event.carried, Event.isText]

theorem advance_step (root : Option Element) (inner : Element) (outer : List Element)
    (event : Event) (hfinish : event = .finish → outer ≠ []) :
    ∃ advanced, step ⟨root, inner :: outer⟩ event = ⟨root, advanced⟩ ∧
      Advance (inner :: outer) event advanced := by
  cases event with
  | start tag attributes position =>
      refine ⟨_, rfl, .of_append (List.cons_ne_nil _ _) (fun rest => rfl) ?_ ?_⟩
      · simp [pending, Node.events.ofAll, Element.start, Event.carried]
      · simp [Event.carried, Event.isText]
  | finish =>
      obtain ⟨next, more, rfl⟩ := List.exists_cons_of_ne_nil (hfinish rfl)
      exact advance_close root inner next more
  | text data => exact advance_add root inner outer rfl rfl
  | comment data => exact advance_add root inner outer rfl rfl
  | instruction target data => exact advance_add root inner outer rfl rfl

/-- Events that close what they open, and the elements that were open inside the outermost
one, leave that element open with all that they stand for in it. -/
theorem foldl_step_of_depth? (root : Option Element) (events : List Event)
    (opened : List Element) (hne : opened ≠ [])
    (hmerged : Event.Merged (pending opened))
    (hdepth : Event.depth? (opened.length - 1) events = some 0) :
    ∃ element, events.foldl step ⟨root, opened⟩ = ⟨root, [element]⟩ ∧
      pending [element] = Event.merge (pending opened ++ events.map Event.carried) := by
  -- The events that are pending are merged all along, so at the end merging adds nothing.
  induction events generalizing opened with
  | nil =>
      rw [Event.depth?, Option.some.injEq] at hdepth
      obtain ⟨inner, outer, rfl⟩ := List.exists_cons_of_ne_nil hne
      obtain rfl : outer = [] := List.length_eq_zero_iff.mp hdepth
      refine ⟨inner, rfl, ?_⟩
      rw [List.map_nil, List.append_nil, Event.merge_of_merged hmerged]
  | cons event rest ih =>
      obtain ⟨inner, outer, rfl⟩ := List.exists_cons_of_ne_nil hne
      have hfinish : event = .finish → outer ≠ [] := by
        rintro rfl rfl
        simp [Event.depth?] at hdepth
      obtain ⟨advanced, hstep, hadvance⟩ := advance_step root inner outer event hfinish
      rw [hadvance.depth] at hdepth
      obtain ⟨element, hfold, hpending⟩ :=
        ih advanced hadvance.ne_nil (hadvance.merged hmerged) hdepth
      refine ⟨element, ?_, ?_⟩
      · rw [List.foldl_cons, hstep, hfold]
      · rw [hpending, List.map_cons, hadvance.merge]

theorem foldl_step_outside {events : List Event} (h : ∀ event ∈ events, event.isTag = false)
    (root : Option Element) : events.foldl step ⟨root, []⟩ = ⟨root, []⟩ := by
  induction events with
  | nil => rfl
  | cons event rest ih =>
      rw [List.forall_mem_cons] at h
      have hstep : step ⟨root, []⟩ event = ⟨root, []⟩ := by
        cases event with
        | start => cases h.1
        | finish => cases h.1
        | _ => rfl
      rw [List.foldl_cons, hstep, ih h.2]

end Builder

namespace Element

theorem ofEvents_root (tag : String) (attributes : List (String × String))
    (position : Position) {inside : List Event} (hinside : Event.depth? 0 inside = some 0) :
    ∃ root : Element, root.start = .start tag attributes position ∧
      Node.events.ofAll root.children = Event.merge (inside.map Event.carried) ∧
      ∀ before behind : List Event, (∀ event ∈ before ++ behind, event.isTag = false) →
        ofEvents (before ++ root.start :: (inside ++ .finish :: behind)) = some root := by
  obtain ⟨element, hfold, hpending⟩ :=
    Builder.foldl_step_of_depth? none inside [⟨tag, attributes, position, []⟩]
      (List.cons_ne_nil _ _) (.singleton _) hinside
  have hopened : Event.merge
      (Builder.pending [⟨tag, attributes, position, []⟩] ++ inside.map Event.carried) =
        .start tag attributes position :: Event.merge (inside.map Event.carried) := rfl
  rw [hopened, Builder.pending, Builder.pending, List.nil_append] at hpending
  obtain ⟨hstart, hchildren⟩ := List.cons.inj hpending
  refine ⟨{ element with children := element.children.reverse }, hstart, hchildren, ?_⟩
  intro before behind houtside
  obtain ⟨hbefore, hbehind⟩ := List.forall_mem_append.mp houtside
  obtain ⟨rfl, rfl, rfl⟩ := Event.start.inj hstart
  have hopen : Builder.step ⟨none, []⟩ element.start =
      ⟨none, [⟨element.tag, element.attributes, element.position, []⟩]⟩ := rfl
  have hclose : Builder.step ⟨none, [element]⟩ .finish =
      ⟨some { element with children := element.children.reverse }, []⟩ := rfl
  have hheader : start { element with children := element.children.reverse } =
      element.start := rfl
  rw [ofEvents, Builder.empty, hheader, List.foldl_append,
    Builder.foldl_step_outside hbefore, List.foldl_cons, hopen, List.foldl_append, hfold,
    List.foldl_cons, hclose, Builder.foldl_step_outside hbehind]

end Element

end ApiDocs.Xml
