import ApiDocs.Metadata.Provider

namespace ApiDocs.Metadata

/-! Sources of types whose callers may change the lists that they are given.  Whoever has the
address of a list can change it in place. -/

/-- Lists by their addresses, with the latest at the end.  Two lists may be equal and stand
at two addresses. -/
structure ListStore where
  lists : List (List ExportedType)

namespace ListStore

def empty : ListStore := ⟨[]⟩

def list (store : ListStore) (address : Nat) : List ExportedType :=
  store.lists[address]?.getD []

def add (store : ListStore) (types : List ExportedType) : Nat × ListStore :=
  (store.lists.length, ⟨store.lists ++ [types]⟩)

def copy (store : ListStore) (address : Nat) : Nat × ListStore :=
  store.add (store.list address)

def set (store : ListStore) (address : Nat) (types : List ExportedType) : ListStore :=
  ⟨store.lists.set address types⟩

theorem list_add_fst (store : ListStore) (types : List ExportedType) :
    (store.add types).2.list (store.add types).1 = types := by
  simp [add, list]

theorem list_add_of_lt {store : ListStore} {address : Nat} (h : address < store.lists.length)
    (types : List ExportedType) : (store.add types).2.list address = store.list address := by
  simp [add, list, List.getElem?_append_left h]

theorem list_set_of_ne {store : ListStore} {address other : Nat} (h : address ≠ other)
    (types : List ExportedType) : (store.set address types).list other = store.list other := by
  rw [set, list, list, List.getElem?_set_ne h]

@[simp] theorem length_add (store : ListStore) (types : List ExportedType) :
    (store.add types).2.lists.length = store.lists.length + 1 := by
  simp [add]

@[simp] theorem length_set (store : ListStore) (address : Nat) (types : List ExportedType) :
    (store.set address types).lists.length = store.lists.length := by
  simp [set]

end ListStore

/-- A source of types: the file that they come from, and the address of the list that is kept
once they have been read. -/
structure Source where
  path : Path
  kept? : Option Nat

namespace Source

def ofPath (path : Path) : Source := ⟨path, none⟩

/-- Hands out a copy of the list that is kept.  The file is read until that succeeds once. -/
def exportedTypes (tree : FileTree) (directory : Place) (source : Source) (store : ListStore) :
    Outcome Notice (LoadError FileError) Nat × Source × ListStore :=
  match source.kept? with
  | some kept =>
      let (given, store) := store.copy kept
      (.ok given, source, store)
  | none =>
      let outcome := load tree directory source.path
      match outcome.result with
      | .error error => (⟨outcome.notices, .error error⟩, source, store)
      | .ok types =>
          let (kept, store) := store.add types
          let (given, store) := store.copy kept
          (⟨outcome.notices, .ok given⟩, { source with kept? := some kept }, store)

def provider (source : Source) (store : ListStore) : Provider :=
  ⟨source.path, source.kept?.map store.list⟩

end Source

end ApiDocs.Metadata
