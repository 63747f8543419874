import ApiDocs.Path

namespace ApiDocs

/-! Trees of files, and what can go wrong when a path is followed through one.  A tree is a
value: whatever changes one gives another. -/

inductive AccessFault where
  | missing
  | occupied
  | notDirectory
  | isDirectory
  | nullCharacter
  deriving DecidableEq, Repr

namespace AccessFault

def message (path : Path) : AccessFault → String
  | missing => s!"[Errno 2] No such file or directory: {Text.quote path.text}"
  | occupied => s!"[Errno 17] File exists: {Text.quote path.text}"
  | notDirectory => s!"[Errno 20] Not a directory: {Text.quote path.text}"
  | isDirectory => s!"[Errno 21] Is a directory: {Text.quote path.text}"
  | nullCharacter => "embedded null byte"

/-- What is wrong at a path that something is read from.  A path that cannot be a path
is not worth more words. -/
def messageOfReading (what : String) (path : Path) (fault : AccessFault) : String :=
  if fault = .nullCharacter then
    fault.message path
  else
    s!"cannot read {what} '{path.text}': {fault.message path}"

end AccessFault

/-- Why nothing can be read from a path: there is no file to read, or it holds the
wrong thing. -/
inductive LoadError (ε : Type) where
  | unreadable (fault : AccessFault)
  | unusable (error : ε)

inductive FileNode where
  | file (bytes : List UInt8)
  | directory
  deriving DecidableEq, Repr

structure FileTree where
  nodes : List (Place × FileNode)

namespace FileTree

def empty : FileTree := ⟨[]⟩

/-- What stands at a place; at the root there is always a directory. -/
def node? (tree : FileTree) : Place → Option FileNode
  | [] => some .directory
  | place => tree.nodes.lookup place

def insert (tree : FileTree) (place : Place) (node : FileNode) : FileTree :=
  ⟨(place, node) :: tree.nodes⟩

theorem node?_insert (tree : FileTree) (place other : Place) (node : FileNode)
    (h : other ≠ []) :
    (tree.insert place node).node? other =
      if other = place then some node else tree.node? other := by
  cases other with
  | nil => exact absurd rfl h
  | cons name rest =>
      simp only [node?, insert, List.lookup_cons]
      by_cases heq : name :: rest = place
      · simp [heq]
      · have hne : (name :: rest == place) = false := by simpa using heq
        simp [hne, heq]

def follow (tree : FileTree) (place : Place) :
    List String → Except AccessFault (Place × FileNode)
  | [] =>
      match tree.node? place with
      | some node => .ok (place, node)
      | none => .error .missing
  | name :: rest =>
      match tree.node? place with
      | some .directory => tree.follow (Path.step place name) rest
      | some (.file _) => .error .notDirectory
      | none => .error .missing

def find (tree : FileTree) (directory : Place) (path : Path) :
    Except AccessFault (Place × FileNode) :=
  if path.hasNull then
    .error .nullCharacter
  else
    tree.follow (if path.isRooted then [] else directory) path.segments

def read (tree : FileTree) (directory : Place) (path : Path) :
    Except AccessFault (List UInt8) := do
  match ← tree.find directory path with
  | (_, .file bytes) => .ok bytes
  | (_, .directory) => .error .isDirectory

def addDirectory (tree : FileTree) (place : Place) : FileTree :=
  if (tree.node? place).isSome then tree else tree.insert place .directory

def addDirectories (tree : FileTree) (place : Place) : FileTree :=
  ((List.range place.length).map fun count => place.take (count + 1)).foldl addDirectory tree

def ensureDirectory (tree : FileTree) (place : Place) : Except AccessFault FileTree :=
  match tree.follow [] place with
  | .ok (_, .directory) => .ok tree
  | .ok (_, .file _) => .error .occupied
  | .error .missing => .ok (tree.addDirectories place)
  | .error fault => .error fault

def write (tree : FileTree) (place : Place) (bytes : List UInt8) :
    Except AccessFault FileTree :=
  match tree.follow [] place with
  | .ok (_, .directory) => .error .isDirectory
  | .ok (_, .file _) => .ok (tree.insert place (.file bytes))
  | .error .missing =>
      match tree.follow [] place.dropLast with
      | .ok _ => .ok (tree.insert place (.file bytes))
      | .error fault => .error fault
  | .error fault => .error fault

/-- Writes a file and, before that, makes the directories above it.  Where that fails,
the tree is what is left then, and the fault comes with its place. -/
def save (tree : FileTree) (place : Place) (bytes : List UInt8) :
    FileTree × Option (Place × AccessFault) :=
  match tree.ensureDirectory place.dropLast with
  | .error fault => (tree, some (place.dropLast, fault))
  | .ok made =>
      match made.write place bytes with
      | .error fault => (made, some (place, fault))
      | .ok written => (written, none)

def addedSince (before after : FileTree) : List (Place × FileNode) :=
  (after.nodes.take (after.nodes.length - before.nodes.length)).reverse

end FileTree

end ApiDocs
