import ApiDocs.Metadata.Source

namespace ApiDocs.Metadata

/-! Sources give snapshots.  From the first time that the file can be read, every call gives
the types that were read then, whatever becomes of the file or of lists that were given. -/

/-- A call for the types: the files at that moment, what it gives, and whether the source
keeps types from then on. -/
structure Call where
  tree : FileTree
  answer : Except (LoadError FileError) (List ExportedType)
  keeps : Bool

/-- A source among files and lists, with the addresses that its callers have been given. -/
structure World where
  tree : FileTree
  store : ListStore
  source : Source
  given : List Nat

namespace World

/-- What may happen: the files change in any way, the types are called for, or a caller puts
other types into the list that an earlier call gave. -/
inductive Step where
  | files (tree : FileTree)
  | call
  | edit (given : Nat) (types : List ExportedType)

def start (tree : FileTree) (store : ListStore) (path : Path) : World :=
  ⟨tree, store, Source.ofPath path, []⟩

def call (directory : Place) (world : World) : World × Call :=
  let (outcome, source, store) :=
    world.source.exportedTypes world.tree directory world.store
  ({ world with store, source, given := world.given ++ outcome.result.toOption.toList },
    ⟨world.tree, outcome.result.map store.list, source.kept?.isSome⟩)

def edit (world : World) (given : Nat) (types : List ExportedType) : World :=
  match world.given[given]? with
  | some address => { world with store := world.store.set address types }
  | none => world

def calls (directory : Place) (world : World) : List Step → List Call
  | [] => []
  | .files tree :: rest => calls directory { world with tree } rest
  | .edit given types :: rest => calls directory (world.edit given types) rest
  | .call :: rest =>
      (world.call directory).2 :: calls directory (world.call directory).1 rest

def provider (world : World) : Provider :=
  world.source.provider world.store

/-- Nobody has been given the list that the source keeps. -/
structure Unshared (world : World) : Prop where
  kept : ∀ address ∈ world.source.kept?,
    address < world.store.lists.length ∧ address ∉ world.given
  given : ∀ address ∈ world.given, address < world.store.lists.length

end World

def Call.Fails (directory : Place) (path : Path) (call : Call) : Prop :=
  ∃ error, (load call.tree directory path).result = .error error ∧
    call.answer = .error error ∧ call.keeps = false

/-- Calls fail as long as the file cannot be read.  The first one that can read it decides
what it gives and what all later ones give. -/
def IsSnapshot (directory : Place) (path : Path) (calls : List Call) : Prop :=
  ∃ failed answered, calls = failed ++ answered ∧
    (∀ call ∈ failed, call.Fails directory path) ∧
    ∀ first ∈ answered.head?, ∃ types, (load first.tree directory path).result = .ok types ∧
      ∀ call ∈ answered, call.answer = .ok types ∧ call.keeps = true

/-! Providers, whose lists nobody can change. -/

def Provider.answers (directory : Place) (provider : Provider) : List FileTree → List Call
  | [] => []
  | tree :: rest =>
      let result := provider.exportedTypes tree directory
      ⟨tree, result.1.result, result.2.types?.isSome⟩ :: answers directory result.2 rest

theorem Provider.answers_of_loaded (directory : Place) (path : Path)
    (types : List ExportedType) (trees : List FileTree) :
    ∀ call ∈ answers directory ⟨path, some types⟩ trees,
      call.answer = .ok types ∧ call.keeps = true := by
  induction trees with
  | nil => exact List.forall_mem_nil _
  | cons tree rest ih => exact List.forall_mem_cons.mpr ⟨⟨rfl, rfl⟩, ih⟩

theorem Provider.exportedTypes_ofPath_of_error {tree : FileTree} {directory : Place}
    {path : Path} {error : LoadError FileError}
    (h : (load tree directory path).result = .error error) :
    (ofPath path).exportedTypes tree directory = (load tree directory path, ofPath path) := by
  rw [exportedTypes, ofPath]
  simp [h, Except.toOption]

theorem Provider.exportedTypes_ofPath_of_ok {tree : FileTree} {directory : Place}
    {path : Path} {types : List ExportedType}
    (h : (load tree directory path).result = .ok types) :
    (ofPath path).exportedTypes tree directory =
      (load tree directory path, ⟨path, some types⟩) := by
  rw [exportedTypes, ofPath]
  simp [h, Except.toOption]

theorem Provider.isSnapshot_answers (directory : Place) (path : Path) (trees : List FileTree) :
    IsSnapshot directory path ((ofPath path).answers directory trees) := by
  induction trees with
  | nil => exact ⟨[], [], rfl, by simp, by simp⟩
  | cons tree rest ih =>
      rw [answers]
      cases hload : (load tree directory path).result with
      | error error =>
          obtain ⟨failed, answered, hcalls, hfailed, hanswered⟩ := ih
          rw [exportedTypes_ofPath_of_error hload]
          refine ⟨⟨tree, (load tree directory path).result, false⟩ :: failed, answered, ?_, ?_,
            hanswered⟩
          · rw [List.cons_append, ← hcalls]
            rfl
          · exact List.forall_mem_cons.mpr ⟨⟨error, hload, hload, rfl⟩, hfailed⟩
      | ok types =>
          rw [exportedTypes_ofPath_of_ok hload]
          refine ⟨[], _, rfl, by simp, ?_⟩
          intro first hfirst
          obtain rfl := Option.some.inj hfirst
          refine ⟨types, hload, List.forall_mem_cons.mpr ⟨⟨hload, rfl⟩, ?_⟩⟩
          exact answers_of_loaded directory path types rest

/-! Sources, whose lists their callers can change. -/

namespace World

variable {directory : Place} {world : World}

theorem unshared_start (tree : FileTree) (store : ListStore) (path : Path) :
    (start tree store path).Unshared := by
  constructor
  · intro address hkept
    cases hkept
  · intro address hgiven
    cases hgiven

theorem Unshared.edit (h : world.Unshared) (given : Nat) (types : List ExportedType) :
    (world.edit given types).Unshared ∧ (world.edit given types).provider = world.provider := by
  rw [World.edit]
  split
  · next address haddress =>
      refine ⟨⟨?_, ?_⟩, ?_⟩
      · simpa using h.kept
      · simpa using h.given
      · rw [provider, provider, Source.provider, Source.provider, Provider.mk.injEq]
        refine ⟨rfl, ?_⟩
        cases hkept : world.source.kept? with
        | none => rfl
        | some kept =>
            have hne : address ≠ kept := by
              rintro rfl
              exact (h.kept address hkept).2 (List.mem_of_getElem? haddress)
            rw [Option.map_some, Option.map_some, ListStore.list_set_of_ne hne]
  · exact ⟨h, rfl⟩

def keep (world : World) (types : List ExportedType) : World :=
  { world with
    store := (world.store.add types).2
    source := { world.source with kept? := some (world.store.add types).1 } }

def handOut (world : World) (kept : Nat) : World :=
  { world with
    store := (world.store.copy kept).2
    given := world.given ++ [(world.store.copy kept).1] }

theorem Unshared.keep (h : world.Unshared) (types : List ExportedType) :
    (world.keep types).Unshared ∧
      (world.keep types).provider = ⟨world.source.path, some types⟩ := by
  refine ⟨⟨?_, ?_⟩, ?_⟩
  · intro address haddress
    obtain rfl := Option.some.inj haddress
    refine ⟨by simp [World.keep, ListStore.add], fun hgiven => ?_⟩
    exact absurd (h.given _ hgiven) (Nat.lt_irrefl _)
  · intro address hgiven
    have := h.given address hgiven
    rw [World.keep, ListStore.length_add]
    omega
  · rw [provider, Source.provider, World.keep, Option.map_some, ListStore.list_add_fst]

theorem Unshared.handOut {kept : Nat} (h : world.Unshared)
    (hkept : world.source.kept? = some kept) :
    (world.handOut kept).Unshared ∧ (world.handOut kept).provider = world.provider := by
  obtain ⟨hlt, hnot⟩ := h.kept kept hkept
  refine ⟨⟨?_, ?_⟩, ?_⟩
  · intro address haddress
    obtain rfl := Option.some.inj (hkept.symm.trans haddress)
    refine ⟨?_, ?_⟩
    · rw [World.handOut, ListStore.copy, ListStore.length_add]
      omega
    · rw [World.handOut, List.mem_append, List.mem_singleton, not_or]
      exact ⟨hnot, Nat.ne_of_lt hlt⟩
  · intro address haddress
    rw [World.handOut, ListStore.copy, ListStore.length_add]
    rcases List.mem_append.mp haddress with hgiven | hnew
    · have := h.given address hgiven
      omega
    · rw [List.mem_singleton.mp hnew, ListStore.copy, ListStore.add]
      omega
  · rw [provider, provider, Source.provider, Source.provider, World.handOut, hkept,
      Option.map_some, Option.map_some, ListStore.copy, ListStore.list_add_of_lt hlt]

theorem call_of_kept {kept : Nat} (hkept : world.source.kept? = some kept) :
    world.call directory =
      (world.handOut kept, ⟨world.tree, .ok (world.store.list kept), true⟩) := by
  have hgiven : (world.store.copy kept).2.list (world.store.copy kept).1 =
      world.store.list kept := ListStore.list_add_fst world.store _
  simp only [call, Source.exportedTypes, hkept, Outcome.ok, Except.map, hgiven]
  rfl

theorem call_of_error {error : LoadError FileError} (hkept : world.source.kept? = none)
    (hload : (load world.tree directory world.source.path).result = .error error) :
    world.call directory = (world, ⟨world.tree, .error error, false⟩) := by
  simp [call, Source.exportedTypes, hkept, hload, Except.toOption, Except.map]

theorem call_of_ok {types : List ExportedType} (hkept : world.source.kept? = none)
    (hload : (load world.tree directory world.source.path).result = .ok types) :
    world.call directory =
      ((world.keep types).handOut (world.store.add types).1,
        ⟨world.tree, .ok types, true⟩) := by
  have hgiven : ((world.store.add types).2.copy (world.store.add types).1).2.list
      ((world.store.add types).2.copy (world.store.add types).1).1 = types := by
    rw [ListStore.copy, ListStore.list_add_fst, ListStore.list_add_fst]
  simp only [call, Source.exportedTypes, hkept, hload, Except.map, hgiven]
  rfl

theorem Unshared.call (h : world.Unshared) (directory : Place) :
    (world.call directory).1.Unshared ∧
      (world.call directory).1.provider =
        (world.provider.exportedTypes world.tree directory).2 ∧
      (world.call directory).2 = ⟨world.tree,
        (world.provider.exportedTypes world.tree directory).1.result,
        (world.provider.exportedTypes world.tree directory).2.types?.isSome⟩ := by
  cases hkept : world.source.kept? with
  | some kept =>
      have hprovider : world.provider =
          ⟨world.source.path, some (world.store.list kept)⟩ := by
        rw [provider, Source.provider, hkept, Option.map_some]
      obtain ⟨hunshared, hsame⟩ := h.handOut hkept
      rw [call_of_kept hkept]
      refine ⟨hunshared, ?_, ?_⟩
      · rw [hsame, hprovider, Provider.exportedTypes]
      · rw [hprovider, Provider.exportedTypes]
        rfl
  | none =>
      have hprovider : world.provider = Provider.ofPath world.source.path := by
        rw [provider, Source.provider, hkept, Option.map_none, Provider.ofPath]
      rw [hprovider]
      cases hload : (load world.tree directory world.source.path).result with
      | error error =>
          rw [call_of_error hkept hload, Provider.exportedTypes_ofPath_of_error hload]
          exact ⟨h, hprovider, by rw [hload]; rfl⟩
      | ok types =>
          obtain ⟨hkeep, hloaded⟩ := h.keep types
          obtain ⟨hunshared, hsame⟩ := hkeep.handOut rfl
          rw [call_of_ok hkept hload, Provider.exportedTypes_ofPath_of_ok hload]
          exact ⟨hunshared, hsame.trans hloaded, by rw [hload]; rfl⟩

theorem calls_eq_answers (h : world.Unshared) (steps : List Step) :
    world.calls directory steps =
      world.provider.answers directory ((world.calls directory steps).map Call.tree) := by
  -- The provider behind the world is all that a call depends on: files and edits leave it as it
  -- is, and a call makes of it what the provider's own call makes.
  induction steps generalizing world with
  | nil => rfl
  | cons step rest ih =>
      cases step with
      | files tree => exact ih ⟨h.kept, h.given⟩
      | edit given types =>
          obtain ⟨hunshared, hprovider⟩ := h.edit given types
          rw [calls, ← hprovider]
          exact ih hunshared
      | call =>
          obtain ⟨hunshared, hprovider, hcall⟩ := h.call directory
          have htree : (world.call directory).2.tree = world.tree := by rw [hcall]
          rw [← hprovider] at hcall
          rw [calls, List.map_cons, htree, Provider.answers, ← hprovider, ← ih hunshared,
            List.cons.injEq]
          exact ⟨hcall, rfl⟩

/-- What is called for is a snapshot, whatever happens to the files and to the lists that were
given. -/
theorem isSnapshot_calls (directory : Place) (path : Path) (tree : FileTree)
    (store : ListStore) (steps : List Step) :
    IsSnapshot directory path ((start tree store path).calls directory steps) := by
  rw [calls_eq_answers (unshared_start tree store path)]
  exact Provider.isSnapshot_answers directory path _

end World

end ApiDocs.Metadata
