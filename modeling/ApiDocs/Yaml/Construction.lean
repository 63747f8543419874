import ApiDocs.Yaml.Literal
import ApiDocs.Yaml.Node

namespace ApiDocs.Yaml

/-! Values made of nodes.  A collection is made before its parts, so it may be a part of
itself. -/

namespace Node

def tag : Node → String
  | scalar tag _ => tag
  | sequence tag _ => tag
  | mapping tag _ => tag

def withTag (tag : String) : Node → Node
  | scalar _ text => scalar tag text
  | sequence _ items => sequence tag items
  | mapping _ entries => mapping tag entries

/-- A key that stands for the entry a mapping has by default is a text in maps. -/
def asKey (node : Node) : Node :=
  if node.tag = Tag.default then node.withTag Tag.text else node

end Node

namespace Graph

def tag (nodes : Array Node) (number : Nat) : String :=
  (nodes[number]?.map (·.tag)).getD Tag.null

def entries (nodes : Array Node) (number : Nat) : NodeEntries :=
  match nodes[number]? with
  | some (.mapping _ entries) => entries
  | _ => []

def takeMerge? (nodes : Array Node) : NodeEntries → Option (Nat × NodeEntries)
  | [] => none
  | (key, value) :: rest =>
      if tag nodes key = Tag.merge then
        some (value, rest)
      else
        (takeMerge? nodes rest).map fun (source, others) => (source, (key, value) :: others)

def nameKeys (nodes : Array Node) (entries : NodeEntries) : Array Node :=
  entries.foldl (fun nodes (key, _) => nodes.modify key Node.asKey) nodes

def flattenAll (flatten : Nat → Array Node → Except Fault (Array Node)) :
    List Nat → Array Node → Except Fault (List NodeEntries × Array Node)
  | [], nodes => .ok ([], nodes)
  | item :: rest, nodes => do
      let nodes ← flatten item nodes
      let (others, last) ← flattenAll flatten rest nodes
      .ok (entries nodes item :: others, last)

/-- Carries out the merges of a mapping: it takes in the entries of others, in front of its
own.  `merged` holds what it has taken in.  A merge is gone before its source is looked at, so
that each level has one merge less than the one before it. -/
def flatten : Nat → NodeEntries → Nat → Array Node → Except Fault (Array Node)
  | 0, _, _, _ => .error .malformed
  | fuel + 1, merged, number, nodes =>
      match nodes[number]? with
      | some (.mapping tag own) =>
          match takeMerge? nodes own with
          | none =>
              let all := merged ++ own
              .ok (nameKeys (nodes.setIfInBounds number (.mapping tag all)) all)
          | some (source, others) => do
              let nodes := nodes.setIfInBounds number (.mapping tag others)
              match nodes[source]? with
              | some (.sequence _ items) => do
                  let (lists, nodes) ← flattenAll (flatten fuel []) items nodes
                  flatten fuel (merged ++ lists.reverse.flatten) number nodes
              | _ => do
                  let nodes ← flatten fuel [] source nodes
                  flatten fuel (merged ++ entries nodes source) number nodes
      | _ => .error .malformed

/-- The text of a node that is read as a scalar: its own or that of its default entry. -/
def scalarText (nodes : Array Node) : Nat → Nat → Except Fault String
  | 0, _ => .error .endless
  | fuel + 1, number =>
      match nodes[number]? with
      | some (.scalar _ text) => .ok text
      | some (.mapping _ entries) =>
          match entries.find? fun (key, _) => tag nodes key = Tag.default with
          | some (_, value) => scalarText nodes fuel value
          | none => .error .malformed
      | _ => .error .malformed

def scalarTags : List String :=
  [Tag.text, Tag.null, Tag.truth, Tag.integer, Tag.float, Tag.binary, Tag.timestamp]

def collectionTags : List String :=
  [Tag.sequence, Tag.mapping, Tag.orderedMap, Tag.pairs, Tag.set]

def scalarValue (tag text : String) : Except Fault Value :=
  if tag = Tag.text then .ok (.text text)
  else if tag = Tag.truth then (Literal.truth text).map .bool
  else if tag = Tag.integer then (Literal.integer text).map .int
  else if tag = Tag.float then (Literal.float text).map .float
  else if tag = Tag.binary then (Literal.binary text).map .bytes
  else if tag = Tag.timestamp then
    match Timestamp.parse? (Pattern.dropBreak text.toList) with
    | some stamp => stamp.value
    | none => .error .noTimestamp
  else .ok .null

/-- The value of a node that is no collection.  Without a cycle, one node more than there are
is enough to come to the end of its defaults. -/
def atom (nodes : Array Node) (number : Nat) : Except Fault Value := do
  let tag := tag nodes number
  if !scalarTags.contains tag then
    .error .malformed
  else
    let text ← scalarText nodes (nodes.size + 1) number
    match nodes[number]? with
    | some (.mapping _ _) =>
        if tag = Tag.timestamp then .error .timestampInMapping else scalarValue tag text
    | _ => scalarValue tag text

end Graph

/-- What is made of a node.  The parts of a collection are those made of the nodes with their
numbers. -/
inductive Made where
  | atom (value : Value)
  | list (items : List Nat)
  | pairs (entries : NodeEntries)
  | map (entries : NodeEntries)
  | set (entries : NodeEntries)
  deriving Inhabited

/-- What is known while values are made: the nodes, what is made of them, and the collections
that have no parts yet, last first. -/
structure Making where
  nodes : Array Node
  made : Array (Option Made)
  pending : List Nat

namespace Making

def put (number : Nat) (made : Made) (state : Making) : Making :=
  { state with made := state.made.setIfInBounds number (some made) }

def make (state : Making) (number : Nat) : Except Fault Making := do
  if (state.made[number]?.join).isSome then
    .ok state
  else if Graph.collectionTags.contains (Graph.tag state.nodes number) then
    .ok { state.put number (.list []) with pending := number :: state.pending }
  else
    let value ← Graph.atom state.nodes number
    .ok (state.put number (.atom value))

def isAtom (state : Making) (number : Nat) : Bool :=
  match state.made[number]?.join with
  | some (.atom _) => true
  | _ => false

def makeEntry (state : Making) (entry : Nat × Nat) : Except Fault Making := do
  let state ← state.make entry.1
  if state.isAtom entry.1 then state.make entry.2 else .error .malformed

def makePairs : List Nat → Making → Except Fault (NodeEntries × Making)
  | [], state => .ok ([], state)
  | item :: rest, state =>
      match Graph.entries state.nodes item with
      | [(key, value)] => do
          let state ← (← state.make key).make value
          let (others, state) ← makePairs rest state
          .ok ((key, value) :: others, state)
      | _ => .error .malformed

def fill (fuel : Nat) (state : Making) (number : Nat) : Except Fault Making := do
  match state.nodes[number]? with
  | some (.sequence tag items) =>
      if tag = Tag.sequence then do
        let state ← items.foldlM make state
        .ok (state.put number (.list items))
      else if tag = Tag.orderedMap || tag = Tag.pairs then do
        let (entries, state) ← makePairs items state
        .ok (state.put number (.pairs entries))
      else
        .error .malformed
  | some (.mapping tag _) =>
      if tag = Tag.mapping || tag = Tag.set then do
        let state := { state with nodes := ← Graph.flatten fuel [] number state.nodes }
        let entries := Graph.entries state.nodes number
        let state ← entries.foldlM makeEntry state
        .ok (state.put number (if tag = Tag.set then .set entries else .map entries))
      else
        .error .malformed
  | _ => .error .malformed

/-- Fills the collections that are left, and then those that have been met meanwhile. -/
def fillAll (merges : Nat) : Nat → Making → Except Fault Making
  | 0, state => .ok state
  | fuel + 1, state =>
      match state.pending.reverse with
      | [] => .ok state
      | pending => do
          let state ← pending.foldlM (fill merges) { state with pending := [] }
          fillAll merges fuel state

/-- The value of what has been made.  `trail` holds the numbers of the collections around it.
Reading goes through no collection six times on its way to a value, except where it goes on
for ever; so the value ends there. -/
def unfold (made : Array (Option Made)) : Nat → List Nat → Nat → Value
  | 0, _, _ => .endless
  | fuel + 1, trail, number =>
      if 6 ≤ trail.count number then
        .endless
      else
        let part := unfold made fuel (number :: trail)
        let insert (entries : List (Value × Value)) (entry : Nat × Nat) :=
          Value.insert entries (part entry.1) (part entry.2)
        match made[number]?.join with
        | some (.atom value) => value
        | some (.list items) => .list (items.map part)
        | some (.pairs entries) =>
            .list (entries.map fun (key, value) => .pair (part key) (part value))
        | some (.map entries) => .map (entries.foldl insert [])
        | some (.set entries) => .set ((entries.foldl insert []).map Prod.fst)
        | none => .null

end Making

/-- The value of a graph.  Each merge is made once and each collection filled once, which
bounds both. -/
def Graph.toValue (graph : Graph) : Except Fault Value := do
  let size := graph.nodes.size
  let merges := graph.nodes.foldl (fun count node =>
    match node with
    | .mapping _ entries => count + entries.length
    | _ => count) 1
  let state ← Making.make ⟨graph.nodes, Array.replicate size none, []⟩ graph.root
  let state ← state.fillAll merges (size + 1)
  .ok (Making.unfold state.made (6 * size + 1) [] graph.root)

end ApiDocs.Yaml
