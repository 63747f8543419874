import ApiDocs.Text.Quoted
import ApiDocs.Text.Split

namespace ApiDocs

/-! Paths as they are written, and the places that they name. -/

/-- A place in a tree of files: the names that lead there from the root. -/
abbrev Place := List String

/-- A path as it is written: the slashes in front of it and the names behind them,
without empty names and single dots. -/
structure Path where
  root : String
  segments : List String
  deriving DecidableEq, Repr

namespace Path

/-- One slash roots a path, and so do three or more; two slashes stay two. -/
def rootOf (slashes : Nat) : String :=
  match slashes with
  | 0 => ""
  | 2 => "//"
  | _ => "/"

def isSegment (name : String) : Bool :=
  name != "" && name != "."

def ofText (text : String) : Path where
  root := rootOf (text.toList.takeWhile (· == '/')).length
  segments := (Text.split '/' text).filter isSegment

def text (path : Path) : String :=
  if path.root = "" && path.segments.isEmpty then
    "."
  else
    path.root ++ "/".intercalate path.segments

def ofPlace (place : Place) : Path :=
  ⟨"/", place⟩

def isRooted (path : Path) : Bool :=
  path.root != ""

def within (directory : Place) (path : Path) : Path :=
  if path.isRooted then path else ofPlace (directory ++ path.segments)

def step (place : Place) (name : String) : Place :=
  if name = ".." then place.dropLast else place ++ [name]

/-- The place that a path names when every name on it is a directory. -/
def resolve (directory : Place) (path : Path) : Place :=
  path.segments.foldl step (if path.isRooted then [] else directory)

def trail (directory : Place) (path : Path) : List Place :=
  (List.range (path.segments.length + 1)).map fun count =>
    resolve directory { path with segments := path.segments.take count }

def hasNull (path : Path) : Bool :=
  path.segments.any (·.toList.contains '\x00')

theorem not_mem_resolve {directory : Place} (h : ".." ∉ directory) (path : Path) :
    ".." ∉ resolve directory path := by
  have main : ∀ (names : List String) {start : Place}, ".." ∉ start →
      ".." ∉ names.foldl step start := by
    intro names
    induction names with
    | nil => exact fun hstart => hstart
    | cons name rest ih =>
        intro start hstart
        rw [List.foldl_cons, step]
        split
        · exact ih fun hmem => hstart ((List.dropLast_prefix start).subset hmem)
        · next hname =>
            refine ih ?_
            rw [List.mem_append, List.mem_singleton, not_or]
            exact ⟨hstart, Ne.symm hname⟩
  rw [resolve]
  split
  · exact main path.segments List.not_mem_nil
  · exact main path.segments h

end Path

end ApiDocs
