import ApiDocs.Xml.Event
import Mathlib.Data.List.Chain

namespace ApiDocs.Xml

/-! Runs of events.  Tags say where elements begin and end, and pieces of character data that
nothing parts count as one, whatever the pieces are. -/

namespace Event

def isTag : Event → Bool
  | start _ _ _ => true
  | finish => true
  | _ => false

def isText : Event → Bool
  | text _ => true
  | _ => false

def data? : Event → Option String
  | text data => some data
  | _ => none

/-- What a tree keeps of an event: an instruction becomes one text, like a comment. -/
def carried : Event → Event
  | instruction target data => comment (target ++ " " ++ data)
  | event => event

def characters : Event → List Event
  | text data => data.toList.map fun c => text (String.singleton c)
  | event => [event]

/-- How many elements are open after some events when `depth` are open before them.  None if
an element is closed that is not open. -/
def depth? (depth : Nat) : List Event → Option Nat
  | [] => some depth
  | start _ _ _ :: rest => depth? (depth + 1) rest
  | finish :: rest =>
      match depth with
      | 0 => none
      | outer + 1 => depth? outer rest
  | _ :: rest => depth? depth rest

def roots (depth : Nat) : List Event → Nat
  | [] => 0
  | start _ _ _ :: rest => (if depth = 0 then 1 else 0) + roots (depth + 1) rest
  | finish :: rest => roots (depth - 1) rest
  | _ :: rest => roots depth rest

def prepend : Event → List Event → List Event
  | text data, text value :: rest => text (data ++ value) :: rest
  | event, rest => event :: rest

/-- The events in which no text follows another. -/
def merge (events : List Event) : List Event :=
  events.foldr prepend []

def Merged (events : List Event) : Prop :=
  events.IsChain fun first second => ¬ (first.isText = true ∧ second.isText = true)

/-- The events up to the one that closes an element, while `depth` elements inside it are
open. -/
def upToClose (depth : Nat) : List Event → List Event
  | [] => []
  | start tag attributes position :: rest =>
      start tag attributes position :: upToClose (depth + 1) rest
  | finish :: rest =>
      match depth with
      | 0 => []
      | outer + 1 => finish :: upToClose outer rest
  | event :: rest => event :: upToClose depth rest

/-- An element as events tell of it: what its start says, and the character data that comes
before its end. -/
structure Extent where
  tag : String
  attributes : List (String × String)
  position : Position
  text : String

def extents : List Event → List Extent
  | [] => []
  | start tag attributes position :: rest =>
      ⟨tag, attributes, position, String.join ((upToClose 0 rest).filterMap data?)⟩ ::
        extents rest
  | _ :: rest => extents rest

theorem tag_cases (event : Event) :
    (∃ tag attributes position, event = start tag attributes position) ∨ event = finish ∨
      event.isTag = false := by
  cases event with
  | start tag attributes position => exact .inl ⟨tag, attributes, position, rfl⟩
  | finish => exact .inr (.inl rfl)
  | _ => exact .inr (.inr rfl)

theorem data?_start (tag : String) (attributes : List (String × String))
    (position : Position) : data? (start tag attributes position) = none := rfl

theorem data?_finish : data? finish = none := rfl

@[simp] theorem merge_nil : merge [] = [] := rfl

@[simp] theorem merge_cons (event : Event) (rest : List Event) :
    merge (event :: rest) = prepend event (merge rest) := rfl

theorem merge_append (first second : List Event) :
    merge (first ++ second) = first.foldr prepend (merge second) := by
  rw [merge, List.foldr_append]
  rfl

theorem prepend_of_not_isText {event : Event} (h : event.isText = false)
    (rest : List Event) : prepend event rest = event :: rest := by
  cases event with
  | text data => cases h
  | _ => rfl

theorem prepend_text_prepend_text (first second : String) (rest : List Event) :
    prepend (text first) (prepend (text second) rest) =
      prepend (text (first ++ second)) rest := by
  cases rest with
  | nil => rfl
  | cons event rest =>
      cases event with
      | text value => simp [prepend, String.append_assoc]
      | _ => rfl

theorem merge_text_text (before : List Event) (first second : String) (rest : List Event) :
    merge (before ++ text first :: text second :: rest) =
      merge (before ++ text (first ++ second) :: rest) := by
  rw [merge_append, merge_append, merge_cons, merge_cons, merge_cons,
    prepend_text_prepend_text]

theorem merge_append_cons {event : Event} (hevent : event.isText = false)
    (before rest : List Event) :
    merge (before ++ event :: rest) = merge before ++ event :: merge rest := by
  induction before with
  | nil => rw [List.nil_append, merge_cons, prepend_of_not_isText hevent, merge_nil,
      List.nil_append]
  | cons first others ih =>
      rw [List.cons_append, merge_cons, ih, merge_cons]
      cases first with
      | text data =>
          cases merge others with
          | nil =>
              cases event with
              | text value => cases hevent
              | _ => rfl
          | cons next more => cases next <;> rfl
      | _ => rfl

theorem merge_of_merged {events : List Event} (h : Merged events) : merge events = events := by
  induction events with
  | nil => rfl
  | cons event rest ih =>
      rw [merge_cons, ih h.tail]
      cases event with
      | text data =>
          cases rest with
          | nil => rfl
          | cons next more =>
              have hnext : next.isText = false := by
                simpa [isText] using List.rel_of_isChain_cons_cons h
              cases next with
              | text value => cases hnext
              | _ => rfl
      | _ => rfl

theorem Merged.prepend {rest : List Event} (h : Merged rest) (event : Event) :
    Merged (event.prepend rest) := by
  cases rest with
  | nil => cases event <;> exact .singleton _
  | cons next more =>
      have hcons : event.isText = false → Merged (event :: next :: more) :=
        fun hevent => .cons_cons (fun hpair => by simp [hevent] at hpair) h
      cases event with
      | text data =>
          cases next with
          | text value =>
              cases more with
              | nil => exact .singleton _
              | cons third others =>
                  obtain ⟨hpair, hrest⟩ := List.isChain_cons_cons.mp h
                  exact .cons_cons hpair hrest
          | _ => exact .cons_cons (by simp [isText]) h
      | _ => exact hcons rfl

theorem merged_merge (events : List Event) : Merged (merge events) := by
  induction events with
  | nil => exact .nil
  | cons event rest ih => exact ih.prepend event

theorem foldr_prepend_characters (c : Char) (cs : List Char) (rest : List Event) :
    ((c :: cs).map fun c => text (String.singleton c)).foldr prepend rest =
      prepend (text (String.ofList (c :: cs))) rest := by
  induction cs generalizing c with
  | nil => rfl
  | cons next more ih =>
      have hcons : String.singleton c ++ String.ofList (next :: more) =
          String.ofList (c :: next :: more) := by simp
      rw [List.map_cons, List.foldr_cons, ih, prepend_text_prepend_text, hcons]

theorem merge_flatMap_characters {events : List Event} (h : text "" ∉ events) :
    merge (events.flatMap characters) = merge events := by
  induction events with
  | nil => rfl
  | cons event rest ih =>
      rw [List.mem_cons, not_or] at h
      rw [List.flatMap_cons, merge_append, ih h.2, merge_cons]
      cases event with
      | text data =>
          cases hdata : data.toList with
          | nil => exact absurd (by rw [String.toList_eq_nil_iff.mp hdata]) h.1
          | cons c cs =>
              rw [characters, hdata, foldr_prepend_characters, ← hdata, String.ofList_toList]
      | _ => rfl

theorem data?_prepend (event : Event) (rest : List Event) :
    String.join ((prepend event rest).filterMap data?) =
      String.join ((event :: rest).filterMap data?) := by
  cases event with
  | text data =>
      cases rest with
      | nil => rfl
      | cons next more =>
          cases next <;> simp [prepend, data?, String.append_assoc]
  | _ => rfl

theorem join_data?_merge (events : List Event) :
    String.join ((merge events).filterMap data?) =
      String.join (events.filterMap data?) := by
  induction events with
  | nil => rfl
  | cons event rest ih =>
      rw [merge_cons, data?_prepend, List.filterMap_cons, List.filterMap_cons]
      cases event.data? with
      | none => exact ih
      | some data => rw [String.join_cons, String.join_cons, ih]

theorem depth?_cons {event : Event} (hevent : event.isTag = false) (depth : Nat)
    (rest : List Event) : depth? depth (event :: rest) = depth? depth rest := by
  cases event with
  | start => cases hevent
  | finish => cases hevent
  | _ => rfl

theorem roots_cons {event : Event} (hevent : event.isTag = false) (depth : Nat)
    (rest : List Event) : roots depth (event :: rest) = roots depth rest := by
  cases event with
  | start => cases hevent
  | finish => cases hevent
  | _ => rfl

theorem upToClose_cons {event : Event} (hevent : event.isTag = false) (depth : Nat)
    (rest : List Event) :
    upToClose depth (event :: rest) = event :: upToClose depth rest := by
  cases event with
  | start => cases hevent
  | finish => cases hevent
  | _ => rfl

theorem extents_cons {event : Event} (hevent : event.isTag = false) (rest : List Event) :
    extents (event :: rest) = extents rest := by
  cases event with
  | start => cases hevent
  | finish => cases hevent
  | _ => rfl

theorem extents_finish (rest : List Event) : extents (finish :: rest) = extents rest := rfl

theorem upToClose_prepend {event : Event} (hevent : event.isTag = false) (depth : Nat)
    (rest : List Event) :
    upToClose depth (prepend event rest) = prepend event (upToClose depth rest) := by
  cases event with
  | start => cases hevent
  | finish => cases hevent
  | text data =>
      cases rest with
      | nil => rfl
      | cons next more =>
          cases next with
          | finish => cases depth <;> rfl
          | start => rfl
          | _ => rfl
  | _ => rfl

theorem extents_prepend {event : Event} (hevent : event.isTag = false) (rest : List Event) :
    extents (prepend event rest) = extents rest := by
  cases event with
  | start => cases hevent
  | finish => cases hevent
  | text data =>
      cases rest with
      | nil => rfl
      | cons next more => cases next <;> rfl
  | _ => rfl

theorem upToClose_merge (depth : Nat) (events : List Event) :
    upToClose depth (merge events) = merge (upToClose depth events) := by
  induction events generalizing depth with
  | nil => rfl
  | cons event rest ih =>
      rw [merge_cons]
      rcases event.tag_cases with ⟨tag, attributes, position, rfl⟩ | rfl | htag
      · rw [prepend_of_not_isText rfl, upToClose, upToClose, ih, merge_cons,
          prepend_of_not_isText rfl]
      · rw [prepend_of_not_isText rfl]
        cases depth with
        | zero => rfl
        | succ outer => rw [upToClose, upToClose, ih, merge_cons, prepend_of_not_isText rfl]
      · rw [upToClose_prepend htag, ih, upToClose_cons htag, merge_cons]

theorem extents_merge (events : List Event) : extents (merge events) = extents events := by
  induction events with
  | nil => rfl
  | cons event rest ih =>
      rw [merge_cons]
      rcases event.tag_cases with ⟨tag, attributes, position, rfl⟩ | rfl | htag
      · rw [prepend_of_not_isText rfl, extents, extents, ih, upToClose_merge, join_data?_merge]
      · rw [prepend_of_not_isText rfl, extents_finish, extents_finish, ih]
      · rw [extents_prepend htag, ih, extents_cons htag]

theorem forall_isTag_of_roots {events : List Event} (hdepth : depth? 0 events = some 0)
    (hroots : roots 0 events = 0) : ∀ event ∈ events, event.isTag = false := by
  induction events with
  | nil => simp
  | cons event rest ih =>
      rcases event.tag_cases with ⟨tag, attributes, position, rfl⟩ | rfl | htag
      · simp [roots] at hroots
      · cases hdepth
      · rw [depth?_cons htag] at hdepth
        rw [roots_cons htag] at hroots
        exact List.forall_mem_cons.mpr ⟨htag, ih hdepth hroots⟩

theorem exists_finish {events : List Event} {depth : Nat}
    (hdepth : depth? (depth + 1) events = some 0) (hroots : roots (depth + 1) events = 0) :
    ∃ inside behind, events = inside ++ finish :: behind ∧ depth? depth inside = some 0 ∧
      ∀ event ∈ behind, event.isTag = false := by
  -- While more than one element is open the end that is looked for lies behind the event.
  induction events generalizing depth with
  | nil => simp [depth?] at hdepth
  | cons event rest ih =>
      rcases event.tag_cases with ⟨tag, attributes, position, rfl⟩ | rfl | htag
      · rw [roots, if_neg (Nat.succ_ne_zero depth), Nat.zero_add] at hroots
        obtain ⟨inside, behind, rfl, hinside, hbehind⟩ := ih hdepth hroots
        exact ⟨start tag attributes position :: inside, behind, rfl, hinside, hbehind⟩
      · cases depth with
        | zero => exact ⟨[], rest, rfl, rfl, forall_isTag_of_roots hdepth hroots⟩
        | succ outer =>
            obtain ⟨inside, behind, rfl, hinside, hbehind⟩ := ih hdepth hroots
            exact ⟨finish :: inside, behind, rfl, hinside, hbehind⟩
      · rw [depth?_cons htag] at hdepth
        rw [roots_cons htag] at hroots
        obtain ⟨inside, behind, rfl, hinside, hbehind⟩ := ih hdepth hroots
        refine ⟨event :: inside, behind, rfl, ?_, hbehind⟩
        rw [depth?_cons htag, hinside]

theorem exists_root {events : List Event} (hdepth : depth? 0 events = some 0)
    (hroots : roots 0 events = 1) :
    ∃ before tag attributes position inside behind,
      events = before ++ start tag attributes position :: (inside ++ finish :: behind) ∧
        (∀ event ∈ before, event.isTag = false) ∧ depth? 0 inside = some 0 ∧
        ∀ event ∈ behind, event.isTag = false := by
  induction events with
  | nil => simp [roots] at hroots
  | cons event rest ih =>
      rcases event.tag_cases with ⟨tag, attributes, position, rfl⟩ | rfl | htag
      · rw [roots, if_pos rfl, Nat.add_eq_left] at hroots
        obtain ⟨inside, behind, rfl, hinside, hbehind⟩ := exists_finish hdepth hroots
        exact ⟨[], tag, attributes, position, inside, behind, rfl, by simp, hinside, hbehind⟩
      · cases hdepth
      · rw [depth?_cons htag] at hdepth
        rw [roots_cons htag] at hroots
        obtain ⟨before, tag, attributes, position, inside, behind, rfl, hbefore, hrest⟩ :=
          ih hdepth hroots
        exact ⟨event :: before, tag, attributes, position, inside, behind, rfl,
          List.forall_mem_cons.mpr ⟨htag, hbefore⟩, hrest⟩

theorem filterMap_data?_map_carried (events : List Event) :
    (events.map carried).filterMap data? = events.filterMap data? := by
  have hdata : data? ∘ carried = data? := by
    funext event
    cases event <;> rfl
  rw [List.filterMap_map, hdata]

theorem extents_append_of_outside {outside : List Event}
    (h : ∀ event ∈ outside, event.isTag = false) (rest : List Event) :
    extents (outside ++ rest) = extents rest := by
  induction outside with
  | nil => rfl
  | cons event others ih =>
      rw [List.forall_mem_cons] at h
      rw [List.cons_append, extents_cons h.1, ih h.2]

theorem upToClose_map_carried (depth : Nat) (events : List Event) :
    upToClose depth (events.map carried) = (upToClose depth events).map carried := by
  induction events generalizing depth with
  | nil => rfl
  | cons event rest ih =>
      cases event with
      | finish =>
          cases depth with
          | zero => rfl
          | succ outer => simp [carried, upToClose, ih]
      | _ => simp [carried, upToClose, ih]

theorem extents_map_carried (events : List Event) :
    extents (events.map carried) = extents events := by
  induction events with
  | nil => rfl
  | cons event rest ih =>
      cases event with
      | start tag attributes position =>
          simp only [List.map_cons, carried, extents, ih, upToClose_map_carried,
            filterMap_data?_map_carried]
      | _ => simpa only [List.map_cons, carried, extents] using ih

end Event

end ApiDocs.Xml
