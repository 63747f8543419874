import ApiDocs.FileTree
import Mathlib.Data.List.Induction

namespace ApiDocs.FileTree

/-! Trees in which every file and every directory stands in a directory.  In such a tree a
file is written with the directories above it, or nothing changes. -/

/-- Whatever stands in a tree stands in a directory, and no name in it leads back. -/
structure WellFormed (tree : FileTree) : Prop where
  parent : ∀ place, (tree.node? place).isSome → tree.node? place.dropLast = some .directory
  forward : ∀ place, (tree.node? place).isSome → ".." ∉ place

theorem isSome_node?_iff (tree : FileTree) (place : Place) :
    (tree.node? place).isSome ↔ place = [] ∨ place ∈ tree.nodes.map Prod.fst := by
  cases place with
  | nil => simp [node?]
  | cons name rest =>
      rw [node?, List.lookup_isSome_iff]
      · simp
      · simp

theorem wellFormed_iff (tree : FileTree) :
    tree.WellFormed ↔
      ∀ place ∈ tree.nodes.map Prod.fst,
        tree.node? place.dropLast = some .directory ∧ ".." ∉ place := by
  constructor
  · intro h place hmem
    have hsome := (tree.isSome_node?_iff place).mpr (.inr hmem)
    exact ⟨h.parent place hsome, h.forward place hsome⟩
  · intro h
    refine ⟨?_, ?_⟩
    · intro place hsome
      rcases (tree.isSome_node?_iff place).mp hsome with rfl | hmem
      · rfl
      · exact (h place hmem).1
    · intro place hsome
      rcases (tree.isSome_node?_iff place).mp hsome with rfl | hmem
      · exact List.not_mem_nil
      · exact (h place hmem).2

instance (tree : FileTree) : Decidable tree.WellFormed :=
  decidable_of_iff' _ tree.wellFormed_iff

def Blocked (tree : FileTree) (place : Place) : Prop :=
  ∃ above bytes, above <+: place ∧ above ≠ place ∧ tree.node? above = some (.file bytes)

def Clear (tree : FileTree) (place : Place) : Prop :=
  ∀ above, above <+: place → tree.node? above = none ∨ tree.node? above = some .directory

variable {tree : FileTree} {place : Place}

theorem prefix_dropLast {above : Place} (h : above <+: place) (hne : above ≠ place) :
    above <+: place.dropLast := by
  obtain ⟨names, rfl⟩ := h
  have hnames : names ≠ [] := fun heq => hne (by simp [heq])
  rw [List.dropLast_append_of_ne_nil hnames]
  exact List.prefix_append _ _

theorem not_prefix_dropLast (h : place ≠ []) : ¬ place <+: place.dropLast := by
  intro hbegins
  have hlength := hbegins.length_le
  have hpos := List.length_pos_iff.mpr h
  rw [List.length_dropLast] at hlength
  omega

theorem node?_insert_of_ne {other : Place} (h : other ≠ place) (node : FileNode) :
    (tree.insert place node).node? other = tree.node? other := by
  cases other with
  | nil => rfl
  | cons name rest => rw [node?_insert _ _ _ _ (List.cons_ne_nil _ _), if_neg h]

namespace WellFormed

theorem node?_above (h : tree.WellFormed) (hsome : (tree.node? place).isSome) {above : Place}
    (habove : above <+: place) (hne : above ≠ place) :
    tree.node? above = some .directory := by
  induction place using List.reverseRecOn with
  | nil => exact absurd (List.prefix_nil.mp habove) hne
  | append_singleton rest name ih =>
      have hrest : tree.node? rest = some .directory := by
        simpa using h.parent (rest ++ [name]) hsome
      by_cases heq : above = rest
      · rw [heq, hrest]
      · have hbegins := (List.prefix_concat_iff.mp habove).resolve_left hne
        exact ih (by rw [hrest]; rfl) hbegins heq

theorem node?_eq_none (h : tree.WellFormed) {above : Place}
    (hne : tree.node? above ≠ some .directory) (hbegins : above <+: place)
    (hproper : above ≠ place) : tree.node? place = none := by
  rw [← Option.not_isSome_iff_eq_none]
  exact fun hsome => hne (h.node?_above hsome hbegins hproper)

theorem directory_above (h : tree.WellFormed) (hplace : tree.node? place = some .directory)
    {above : Place} (habove : above <+: place) : tree.node? above = some .directory := by
  by_cases heq : above = place
  · rw [heq, hplace]
  · exact h.node?_above (by rw [hplace]; rfl) habove heq

end WellFormed

inductive Followed (tree : FileTree) (place : Place) :
    Except AccessFault (Place × FileNode) → Prop where
  | found (node : FileNode) (h : tree.node? place = some node) :
      Followed tree place (.ok (place, node))
  | missing (h : tree.node? place = none) (hclear : tree.Clear place) :
      Followed tree place (.error .missing)
  | blocked (h : tree.node? place = none) (hblocked : tree.Blocked place) :
      Followed tree place (.error .notDirectory)

theorem followed_append (h : tree.WellFormed) {start rest : Place} (hforward : ".." ∉ rest)
    (hstart : ∀ above, above <+: start → above ≠ start → tree.node? above = some .directory) :
    Followed tree (start ++ rest) (tree.follow start rest) := by
  -- All that stands above the place reached so far is a directory, so that only the place
  -- itself can stop the walk.
  induction rest generalizing start with
  | nil =>
      rw [List.append_nil, follow]
      cases hnode : tree.node? start with
      | some node => exact .found node hnode
      | none =>
          refine .missing hnode ?_
          intro above habove
          by_cases heq : above = start
          · rw [heq]
            exact .inl hnode
          · exact .inr (hstart above habove heq)
  | cons name rest ih =>
      have hname : name ≠ ".." := fun heq => hforward (heq ▸ List.mem_cons_self)
      have hrest : ".." ∉ rest := fun hmem => hforward (List.mem_cons_of_mem name hmem)
      have hassoc : start ++ name :: rest = start ++ [name] ++ rest := by simp
      have hproper : start ≠ start ++ name :: rest := by simp
      rw [follow]
      cases hnode : tree.node? start with
      | none =>
          have hne : tree.node? start ≠ some .directory := by simp [hnode]
          refine .missing (h.node?_eq_none hne (List.prefix_append _ _) hproper) ?_
          intro above habove
          by_cases heq : above = start
          · rw [heq]
            exact .inl hnode
          · rcases List.prefix_or_prefix_of_prefix habove (List.prefix_append start _) with
              hle | hge
            · exact .inr (hstart above hle heq)
            · exact .inl (h.node?_eq_none hne hge (Ne.symm heq))
      | some node =>
          cases node with
          | file bytes =>
              have hne : tree.node? start ≠ some .directory := by simp [hnode]
              exact .blocked (h.node?_eq_none hne (List.prefix_append _ _) hproper)
                ⟨start, bytes, List.prefix_append _ _, hproper, hnode⟩
          | directory =>
              simp only [Path.step, if_neg hname]
              rw [hassoc]
              refine ih hrest ?_
              intro above habove hne
              by_cases heq : above = start
              · rw [heq, hnode]
              · exact hstart above ((List.prefix_concat_iff.mp habove).resolve_left hne) heq

theorem followed (h : tree.WellFormed) (hforward : ".." ∉ place) :
    Followed tree place (tree.follow [] place) := by
  have hroot : ∀ above : Place, above <+: [] → above ≠ [] →
      tree.node? above = some .directory :=
    fun _ habove hne => absurd (List.prefix_nil.mp habove) hne
  exact @followed_append tree h [] place hforward hroot

theorem follow_eq_ok (h : tree.WellFormed) (hforward : ".." ∉ place) {node : FileNode}
    (hnode : tree.node? place = some node) : tree.follow [] place = .ok (place, node) := by
  have hfollowed := followed h hforward
  generalize tree.follow [] place = result at hfollowed
  cases hfollowed with
  | found found hfound =>
      rw [hnode, Option.some.injEq] at hfound
      rw [hfound]
  | missing hnone hclear =>
      rw [hnode] at hnone
      cases hnone
  | blocked hnone hblocked =>
      rw [hnode] at hnone
      cases hnone

/-! Directories that are added. -/

theorem node?_addDirectory (tree : FileTree) (place other : Place) :
    (tree.addDirectory place).node? other =
      if other = place then (tree.node? other).or (some .directory) else tree.node? other := by
  rw [addDirectory]
  cases hnode : tree.node? place with
  | some node =>
      rw [if_pos Option.isSome_some]
      split
      · next heq => rw [heq, hnode, Option.some_or]
      · rfl
  | none =>
      have hroot : place ≠ [] := by
        rintro rfl
        cases hnode
      rw [if_neg (by simp)]
      by_cases heq : other = place
      · rw [heq, node?_insert _ _ _ _ hroot, if_pos rfl, if_pos rfl, hnode]
        rfl
      · rw [node?_insert_of_ne heq, if_neg heq]

theorem node?_foldl_addDirectory (tree : FileTree) (places : List Place) (other : Place) :
    (places.foldl addDirectory tree).node? other =
      if other ∈ places then (tree.node? other).or (some .directory)
      else tree.node? other := by
  induction places generalizing tree with
  | nil => simp
  | cons place rest ih =>
      rw [List.foldl_cons, ih, node?_addDirectory]
      by_cases heq : other = place
      · by_cases hmem : place ∈ rest <;> simp [heq, hmem]
      · simp [heq]

theorem mem_takes_iff (place other : Place) :
    other ∈ (List.range place.length).map (fun count => place.take (count + 1)) ↔
      other ≠ [] ∧ other <+: place := by
  simp only [List.mem_map, List.mem_range]
  constructor
  · rintro ⟨count, hcount, rfl⟩
    refine ⟨?_, List.take_prefix _ _⟩
    intro hnil
    have hlength := congrArg List.length hnil
    rw [List.length_take, List.length_nil] at hlength
    omega
  · rintro ⟨hne, hbegins⟩
    have hlength := hbegins.length_le
    have hpos := List.length_pos_iff.mpr hne
    refine ⟨other.length - 1, by omega, ?_⟩
    rw [Nat.sub_add_cancel hpos]
    exact (List.prefix_iff_eq_take.mp hbegins).symm

theorem node?_addDirectories (tree : FileTree) (place other : Place) :
    (tree.addDirectories place).node? other =
      if other <+: place then (tree.node? other).or (some .directory) else tree.node? other := by
  rw [addDirectories, node?_foldl_addDirectory]
  simp only [mem_takes_iff]
  by_cases hroot : other = []
  · simp [hroot, node?]
  · simp [hroot]

theorem foldl_addDirectory_of_isSome {places : List Place}
    (h : ∀ place ∈ places, (tree.node? place).isSome) :
    places.foldl addDirectory tree = tree := by
  induction places with
  | nil => rfl
  | cons place rest ih =>
      rw [List.forall_mem_cons] at h
      rw [List.foldl_cons, addDirectory, if_pos h.1, ih h.2]

theorem WellFormed.addDirectories_of_directory (h : tree.WellFormed)
    (hplace : tree.node? place = some .directory) : tree.addDirectories place = tree := by
  refine foldl_addDirectory_of_isSome ?_
  intro above hmem
  rw [h.directory_above hplace ((mem_takes_iff place above).mp hmem).2]
  rfl

theorem WellFormed.addDirectories (h : tree.WellFormed) (hforward : ".." ∉ place)
    (hclear : tree.Clear place) : (tree.addDirectories place).WellFormed := by
  have hsome : ∀ other, ((tree.addDirectories place).node? other).isSome →
      other <+: place ∨ (tree.node? other).isSome := by
    intro other
    rw [node?_addDirectories]
    split
    · next hbegins => exact fun _ => .inl hbegins
    · exact .inr
  refine ⟨?_, ?_⟩
  · intro other hother
    rw [node?_addDirectories]
    rcases hsome other hother with hbegins | htree
    · have habove := (List.dropLast_prefix other).trans hbegins
      rcases hclear other.dropLast habove with hnone | hdirectory
      · rw [if_pos habove, hnone, Option.none_or]
      · rw [if_pos habove, hdirectory, Option.some_or]
    · rw [h.parent other htree]
      split <;> rfl
  · intro other hother
    rcases hsome other hother with hbegins | htree
    · exact fun hmem => hforward (hbegins.subset hmem)
    · exact h.forward other htree

theorem ensureDirectory_cases (h : tree.WellFormed) (hforward : ".." ∉ place) :
    (tree.Clear place ∧ tree.ensureDirectory place = .ok (tree.addDirectories place)) ∨
      (∃ above bytes, above <+: place ∧ tree.node? above = some (.file bytes)) ∧
        ∃ fault, tree.ensureDirectory place = .error fault := by
  have hfollowed := followed h hforward
  rw [ensureDirectory]
  generalize tree.follow [] place = result at hfollowed
  cases hfollowed with
  | found node hnode =>
      cases node with
      | file bytes => exact .inr ⟨⟨place, bytes, List.prefix_refl _, hnode⟩, _, rfl⟩
      | directory =>
          rw [h.addDirectories_of_directory hnode]
          exact .inl ⟨fun above habove => .inr (h.directory_above hnode habove), rfl⟩
  | missing hnone hclear => exact .inl ⟨hclear, rfl⟩
  | blocked hnone hblocked =>
      obtain ⟨above, bytes, hbegins, -, hfile⟩ := hblocked
      exact .inr ⟨⟨above, bytes, hbegins, hfile⟩, _, rfl⟩

/-! Files that are written. -/

theorem WellFormed.insert_file (h : tree.WellFormed) (hforward : ".." ∉ place)
    (hparent : tree.node? place.dropLast = some .directory)
    (hplace : tree.node? place ≠ some .directory) (bytes : List UInt8) :
    (tree.insert place (.file bytes)).WellFormed := by
  have hdirectory : ∀ other, tree.node? other = some .directory →
      (tree.insert place (.file bytes)).node? other = some .directory := by
    intro other hother
    have hne : other ≠ place := fun heq => hplace (heq ▸ hother)
    rw [node?_insert_of_ne hne, hother]
  refine ⟨?_, ?_⟩
  · intro other hother
    by_cases heq : other = place
    · rw [heq]
      exact hdirectory _ hparent
    · rw [node?_insert_of_ne heq] at hother
      exact hdirectory _ (h.parent other hother)
  · intro other hother
    by_cases heq : other = place
    · rw [heq]
      exact hforward
    · rw [node?_insert_of_ne heq] at hother
      exact h.forward other hother

theorem write_cases (h : tree.WellFormed) (hforward : ".." ∉ place)
    (hparent : tree.node? place.dropLast = some .directory) (bytes : List UInt8) :
    (tree.node? place ≠ some .directory ∧
        tree.write place bytes = .ok (tree.insert place (.file bytes))) ∨
      (tree.node? place = some .directory ∧ ∃ fault, tree.write place bytes = .error fault) := by
  have habove : ".." ∉ place.dropLast := fun hmem => hforward ((List.dropLast_prefix place).subset hmem)
  have hfollowed := followed h hforward
  rw [write, follow_eq_ok h habove hparent]
  generalize tree.follow [] place = result at hfollowed
  cases hfollowed with
  | found node hnode =>
      rw [hnode]
      cases node with
      | file old => exact .inl ⟨by simp, rfl⟩
      | directory => exact .inr ⟨rfl, _, rfl⟩
  | missing hnone hclear =>
      rw [hnone]
      exact .inl ⟨by simp, rfl⟩
  | blocked hnone hblocked =>
      obtain ⟨above, old, hbegins, hne, hfile⟩ := hblocked
      have hdirectory := h.directory_above hparent (prefix_dropLast hbegins hne)
      rw [hfile] at hdirectory
      cases hdirectory

/-- One tree is another in which a file has been written: the directories above the file are
there, and nothing else is changed. -/
structure Saved (before after : FileTree) (place : Place) (bytes : List UInt8) : Prop where
  room : before.node? place ≠ some .directory
  content : after.node? place = some (.file bytes)
  made : ∀ above, above <+: place → above ≠ place →
    (before.node? above = none ∨ before.node? above = some .directory) ∧
      after.node? above = some .directory
  others : ∀ other, ¬ other <+: place → after.node? other = before.node? other

theorem node?_addDirectories_of_prefix (h : tree.Clear place) {above : Place}
    (habove : above <+: place) : (tree.addDirectories place).node? above = some .directory := by
  rw [node?_addDirectories, if_pos habove]
  rcases h above habove with hnone | hdirectory
  · rw [hnone, Option.none_or]
  · rw [hdirectory, Option.some_or]

theorem node?_addDirectories_dropLast (tree : FileTree) (place : Place) :
    (tree.addDirectories place.dropLast).node? place = tree.node? place := by
  by_cases hroot : place = []
  · rw [hroot]
    rfl
  · rw [node?_addDirectories, if_neg (not_prefix_dropLast hroot)]

theorem saved_of_clear (hclear : tree.Clear place.dropLast)
    (hroom : tree.node? place ≠ some .directory) (bytes : List UInt8) :
    Saved tree ((tree.addDirectories place.dropLast).insert place (.file bytes)) place
      bytes := by
  have hroot : place ≠ [] := by
    rintro rfl
    exact hroom rfl
  refine ⟨hroom, ?_, ?_, ?_⟩
  · rw [node?_insert _ _ _ _ hroot, if_pos rfl]
  · intro above hbegins hne
    have habove := prefix_dropLast hbegins hne
    rw [node?_insert_of_ne hne, node?_addDirectories_of_prefix hclear habove]
    exact ⟨hclear above habove, rfl⟩
  · intro other hother
    have hne : other ≠ place := fun heq => hother (heq ▸ List.prefix_refl _)
    have habove : ¬ other <+: place.dropLast :=
      fun hbegins => hother (hbegins.trans (List.dropLast_prefix _))
    rw [node?_insert_of_ne hne, node?_addDirectories, if_neg habove]

theorem save_cases (h : tree.WellFormed) (hforward : ".." ∉ place) (bytes : List UInt8) :
    (∃ after, tree.save place bytes = (after, none) ∧ after.WellFormed ∧
        Saved tree after place bytes) ∨
      (∃ fault, tree.save place bytes = (tree, some fault)) ∧
        (tree.node? place = some .directory ∨ tree.Blocked place) := by
  have habove : ".." ∉ place.dropLast :=
    fun hmem => hforward ((List.dropLast_prefix place).subset hmem)
  rcases ensureDirectory_cases h habove with ⟨hclear, hmade⟩ | ⟨hfile, fault, hmade⟩
  · have hparent := node?_addDirectories_of_prefix hclear (List.prefix_refl place.dropLast)
    have hwell := h.addDirectories habove hclear
    rcases write_cases hwell hforward hparent bytes with
      ⟨hplace, hwrite⟩ | ⟨hplace, fault, hwrite⟩
    · have hroom : tree.node? place ≠ some .directory := by
        rwa [node?_addDirectories_dropLast] at hplace
      exact .inl ⟨_, by simp only [save, hmade, hwrite],
        hwell.insert_file hforward hparent hplace bytes, saved_of_clear hclear hroom bytes⟩
    · -- The directories above a directory are there, so that none has been made.
      have hdirectory : tree.node? place = some .directory := by
        rwa [node?_addDirectories_dropLast] at hplace
      have hsame : tree.addDirectories place.dropLast = tree :=
        h.addDirectories_of_directory (h.parent place (by rw [hdirectory]; rfl))
      rw [hsame] at hmade hwrite
      exact .inr ⟨⟨_, by simp only [save, hmade, hwrite]; rfl⟩, .inl hdirectory⟩
  · obtain ⟨above, old, hbegins, hold⟩ := hfile
    have hne : above ≠ place := by
      rintro rfl
      have hroot : above ≠ [] := by
        rintro rfl
        cases hold
      exact not_prefix_dropLast hroot hbegins
    exact .inr ⟨⟨_, by simp only [save, hmade]; rfl⟩,
      .inr ⟨above, old, hbegins.trans (List.dropLast_prefix _), hne, hold⟩⟩

namespace Saved

variable {before after : FileTree} {bytes : List UInt8}

theorem directory (h : Saved before after place bytes) {other : Place}
    (hother : before.node? other = some .directory) : after.node? other = some .directory := by
  by_cases hbegins : other <+: place
  · exact (h.made other hbegins fun heq => h.room (heq ▸ hother)).2
  · rw [h.others other hbegins, hother]

end Saved

end ApiDocs.FileTree
