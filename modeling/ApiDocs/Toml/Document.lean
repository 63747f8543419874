import ApiDocs.Toml.Value

namespace ApiDocs.Toml

/-! Documents: statements that fill tables.  No table is opened twice and no value is
added to once it is complete. -/

/-- What is known while a document is read: its tables; the path that keys start
from; the paths of tables that no header may name any more (`explicit`), some of them
only from the next header on (`pending`); and the paths of complete values
(`closed`). -/
structure Reading where
  root : Table
  header : List String
  explicit : List (List String)
  pending : List (List String)
  closed : List (List String)

namespace Reading

def start : Reading := ⟨[], [], [], [], []⟩

def isClosed (state : Reading) (path : List String) : Bool :=
  state.closed.any (·.isPrefixOf path)

def settle (state : Reading) : Reading :=
  { state with explicit := state.pending ++ state.explicit, pending := [] }

def enterTable (key : List String) (state : Reading) : Except Fault Reading :=
  if state.explicit.contains key || state.isClosed key then
    .error .malformed
  else do
    let root ← state.root.modify true .ok key
    .ok { state with root, header := key, explicit := key :: state.explicit }

def enterArray (key : List String) (state : Reading) : Except Fault Reading :=
  if state.isClosed key then
    .error .malformed
  else do
    let (path, name) := splitKey key
    let root ← state.root.modify true (Table.addToArray name) path
    .ok { state with
      root
      header := key
      explicit := key :: state.explicit.filter (!key.isPrefixOf ·)
      closed := state.closed.filter (!key.isPrefixOf ·) }

def passed (header path : List String) : List (List String) :=
  (List.range path.length).map fun count => header ++ path.take (count + 1)

def assign (key : List String) (value : Value) (state : Reading) : Except Fault Reading :=
  let (path, name) := splitKey key
  let above := state.header ++ path
  let tables := passed state.header path
  if tables.any state.explicit.contains || state.isClosed above then
    .error .malformed
  else do
    let root ← state.root.modify true (Table.add name value) above
    let closed := match value with
      | .list _ => (state.header ++ key) :: state.closed
      | .map _ => (state.header ++ key) :: state.closed
      | _ => state.closed
    .ok { state with root, closed, pending := tables ++ state.pending }

def statement (cs : List Char) (state : Reading) : Except Fault (Reading × List Char) :=
  match cs with
  | '[' :: '[' :: rest => do
      let (key, rest) ← Key.read (skipSpaces rest)
      let state ← state.settle.enterArray key
      match rest with
      | ']' :: ']' :: rest => .ok (state, rest)
      | _ => .error .malformed
  | '[' :: rest => do
      let (key, rest) ← Key.read (skipSpaces rest)
      let state ← state.settle.enterTable key
      match rest with
      | ']' :: rest => .ok (state, rest)
      | _ => .error .malformed
  | _ => do
      let (key, rest) ← Key.read cs
      let (value, rest) ← readAssigned (4 * cs.length + 8) rest
      let state ← state.assign key value
      .ok (state, rest)

def lines : Nat → List Char → Reading → Except Fault Reading
  | 0, _, _ => .error .malformed
  | fuel + 1, cs, state =>
      match skipSpaces cs with
      | [] => .ok state
      | '\n' :: rest => lines fuel rest state
      | cs => do
          let (state, rest) ←
            if cs.head? = some '#' then .ok (state, cs) else state.statement cs
          match ← skipComment (skipSpaces rest) with
          | [] => .ok state
          | '\n' :: rest => lines fuel rest state
          | _ => .error .malformed

end Reading

def dropReturns : List Char → List Char
  | [] => []
  | c :: rest =>
      if c = '\r' && rest.head? = some '\n' then dropReturns rest else c :: dropReturns rest

def readDocument (text : List Char) : Except Fault Table := do
  let cs := dropReturns text
  let state ← Reading.lines (cs.length + 1) cs Reading.start
  .ok state.root

end ApiDocs.Toml
