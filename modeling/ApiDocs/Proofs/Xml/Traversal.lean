import ApiDocs.Proofs.Xml.Event

namespace ApiDocs.Xml

/-! Trees read back as events.  The events of a tree stand in the order of the document, and
they tell its elements and the text of each without the tree. -/

namespace Element

def start (element : Element) : Event :=
  .start element.tag element.attributes element.position

def extent (element : Element) : Event.Extent where
  tag := element.tag
  attributes := element.attributes
  position := element.position
  text := element.text

end Element

namespace Node

def isText : Node → Bool
  | text _ => true
  | _ => false

def events : Node → List Event
  | text value => [.text value]
  | other value => [.comment value]
  | element tag attributes position children =>
      .start tag attributes position :: (ofAll children ++ [.finish])
where
  ofAll : List Node → List Event
    | [] => []
    | node :: rest => events node ++ ofAll rest

def elements : Node → List Element
  | text _ => []
  | other _ => []
  | element tag attributes position children =>
      ⟨tag, attributes, position, children⟩ :: ofAll children
where
  ofAll : List Node → List Element
    | [] => []
    | node :: rest => elements node ++ ofAll rest

@[simp] theorem ofAll_events_append (first second : List Node) :
    events.ofAll (first ++ second) = events.ofAll first ++ events.ofAll second := by
  induction first with
  | nil => rfl
  | cons node rest ih => rw [List.cons_append, events.ofAll, ih, events.ofAll, List.append_assoc]

mutual

theorem upToClose_events (depth : Nat) (node : Node) (rest : List Event) :
    Event.upToClose depth (node.events ++ rest) =
      node.events ++ Event.upToClose depth rest := by
  cases node with
  | text value => rfl
  | other value => rfl
  | element tag attributes position children =>
      rw [events, List.cons_append, Event.upToClose, List.append_assoc,
        upToClose_ofAll_events (depth + 1) children]
      simp [Event.upToClose]

theorem upToClose_ofAll_events (depth : Nat) (nodes : List Node) (rest : List Event) :
    Event.upToClose depth (events.ofAll nodes ++ rest) =
      events.ofAll nodes ++ Event.upToClose depth rest := by
  cases nodes with
  | nil => rfl
  | cons node others =>
      rw [events.ofAll, List.append_assoc, upToClose_events depth node,
        upToClose_ofAll_events depth others, List.append_assoc]

end

mutual

theorem innerText_eq_join_data? (node : Node) :
    node.innerText = String.join (node.events.filterMap Event.data?) := by
  cases node with
  | text value => simp [innerText, events, Event.data?]
  | other value => rfl
  | element tag attributes position children =>
      rw [innerText, innerTexts_eq_join_data? children, events,
        List.filterMap_cons_none (Event.data?_start tag attributes position),
        List.filterMap_append, List.filterMap_cons_none Event.data?_finish,
        List.filterMap_nil, List.append_nil]

theorem innerTexts_eq_join_data? (nodes : List Node) :
    innerText.texts nodes = String.join ((events.ofAll nodes).filterMap Event.data?) := by
  cases nodes with
  | nil => rfl
  | cons node rest =>
      rw [innerText.texts, events.ofAll, innerText_eq_join_data? node,
        innerTexts_eq_join_data? rest, List.filterMap_append, String.join_append]

end

mutual

theorem extents_events (node : Node) (rest : List Event) :
    Event.extents (node.events ++ rest) =
      node.elements.map Element.extent ++ Event.extents rest := by
  cases node with
  | text value => rfl
  | other value => rfl
  | element tag attributes position children =>
      have hcontent : Event.upToClose 0 (events.ofAll children ++ .finish :: rest) =
          events.ofAll children := by
        rw [upToClose_ofAll_events]
        simp [Event.upToClose]
      have htext : (Element.mk tag attributes position children).text =
          String.join ((events.ofAll children).filterMap Event.data?) :=
        innerTexts_eq_join_data? children
      rw [events, List.cons_append, List.append_assoc, List.singleton_append, Event.extents,
        hcontent, extents_ofAll_events children, Event.extents_finish, elements, List.map_cons,
        Element.extent, htext]
      rfl

theorem extents_ofAll_events (nodes : List Node) (rest : List Event) :
    Event.extents (events.ofAll nodes ++ rest) =
      (elements.ofAll nodes).map Element.extent ++ Event.extents rest := by
  cases nodes with
  | nil => rfl
  | cons node others =>
      rw [events.ofAll, List.append_assoc, extents_events node, extents_ofAll_events others,
        elements.ofAll, List.map_append, List.append_assoc]

end

def Parted (nodes : List Node) : Prop :=
  nodes.IsChain fun first second => ¬ (first.isText = true ∧ second.isText = true)

theorem parted_of_merged {nodes : List Node} (h : Event.Merged (events.ofAll nodes)) :
    Parted nodes := by
  induction nodes with
  | nil => exact .nil
  | cons node rest ih =>
      rw [events.ofAll] at h
      have hrest := ih (List.IsChain.right_of_append h)
      cases rest with
      | nil => exact .singleton node
      | cons next others =>
          refine .cons_cons ?_ hrest
          rintro ⟨hnode, hnext⟩
          cases node with
          | text value =>
              cases next with
              | text other =>
                  exact List.rel_of_isChain_cons_cons h ⟨rfl, rfl⟩
              | other => simp [isText] at hnext
              | element => simp [isText] at hnext
          | other => simp [isText] at hnode
          | element => simp [isText] at hnode

mutual

theorem parted_elements {node : Node} (h : Event.Merged node.events) :
    ∀ element ∈ node.elements, Parted element.children := by
  cases node with
  | text value => simp [elements]
  | other value => simp [elements]
  | element tag attributes position children =>
      rw [events] at h
      have hchildren : Event.Merged (events.ofAll children) :=
        List.IsChain.left_of_append (List.IsChain.of_cons h)
      rw [elements, List.forall_mem_cons]
      exact ⟨parted_of_merged hchildren, parted_ofAll_elements hchildren⟩

theorem parted_ofAll_elements {nodes : List Node} (h : Event.Merged (events.ofAll nodes)) :
    ∀ element ∈ elements.ofAll nodes, Parted element.children := by
  cases nodes with
  | nil => simp [elements.ofAll]
  | cons node rest =>
      rw [events.ofAll] at h
      rw [elements.ofAll, List.forall_mem_append]
      exact ⟨parted_elements (List.IsChain.left_of_append h),
        parted_ofAll_elements (List.IsChain.right_of_append h)⟩

end

end Node

end ApiDocs.Xml
