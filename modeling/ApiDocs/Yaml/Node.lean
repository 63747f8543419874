import ApiDocs.Yaml.Pattern
import ApiDocs.Yaml.Timestamp
import ApiDocs.Yaml.Token

namespace ApiDocs.Yaml

/-! Nodes read from tokens.  Every node has a number, and a collection holds the numbers of
its parts.  An alias is the number of the node that its anchor named, which may be a collection
around the alias. -/

abbrev NodeEntries := List (Nat × Nat)

inductive Node where
  | scalar (tag text : String)
  | sequence (tag : String) (items : List Nat)
  | mapping (tag : String) (entries : NodeEntries)
  deriving Repr, Inhabited

/-- The nodes of a document by their numbers, and the number of the outermost. -/
structure Graph where
  nodes : Array Node
  root : Nat
  deriving Repr

namespace Tag

def standard (name : String) : String :=
  "tag:yaml.org,2002:" ++ name

def null : String := standard "null"
def truth : String := standard "bool"
def integer : String := standard "int"
def float : String := standard "float"
def binary : String := standard "binary"
def timestamp : String := standard "timestamp"
def text : String := standard "str"
def sequence : String := standard "seq"
def mapping : String := standard "map"
def orderedMap : String := standard "omap"
def pairs : String := standard "pairs"
def set : String := standard "set"
def merge : String := standard "merge"
def default : String := standard "value"

def ofPlain (scalar : String) : String :=
  let cs := Pattern.dropBreak scalar.toList
  let line := String.ofList cs
  if scalar.isEmpty || Pattern.isNull line then null
  else if Pattern.isTruth line then truth
  else if Pattern.isFloat cs then float
  else if Pattern.isInteger cs then integer
  else if Timestamp.isTimestamp cs then timestamp
  else if line = "<<" then merge
  else if line = "=" then default
  else text

end Tag

/-- What is known while nodes are read: the tokens to come, the nodes so far, the numbers of
those that have an anchor, and what tag handles stand for. -/
structure Reading where
  tokens : List Token
  nodes : Array Node
  anchors : List (String × Nat)
  handles : List (String × String)

namespace Reading

def start (handles : List (String × String)) (tokens : List Token) : Reading :=
  ⟨tokens, #[], [], handles⟩

def peek (state : Reading) : Option Token :=
  state.tokens.head?

def next (state : Reading) : Reading :=
  { state with tokens := state.tokens.tail }

def refuse (state : Reading) : Fault :=
  match state.tokens with
  | .failure fault :: _ => fault
  | _ => .malformed

def expect (token : Token) (state : Reading) : Except Fault Reading :=
  if state.peek = some token then .ok state.next else .error state.refuse

/-- Makes sure that there is a token to look at, or that all have been read. -/
def look (state : Reading) : Except Fault Reading :=
  match state.tokens with
  | .failure fault :: _ => .error fault
  | _ => .ok state

def comes (tokens : List Token) (state : Reading) : Bool :=
  match state.peek with
  | some token => tokens.contains token
  | none => false

def add (node : Node) (state : Reading) : Nat × Reading :=
  (state.nodes.size, { state with nodes := state.nodes.push node })

def put (number : Nat) (node : Node) (state : Reading) : Reading :=
  { state with nodes := state.nodes.setIfInBounds number node }

end Reading

structure Properties where
  anchor? : Option String
  tag? : Option (Option String × String)

namespace Properties

/-- Reads an anchor and a tag in any order.  Behind the first of them there is another token
to look at. -/
def read (state : Reading) : Except Fault (Properties × Reading) :=
  match state.tokens with
  | .anchor name :: .tag handle? suffix :: rest =>
      .ok (⟨some name, some (handle?, suffix)⟩, { state with tokens := rest })
  | .tag handle? suffix :: .anchor name :: rest =>
      .ok (⟨some name, some (handle?, suffix)⟩, { state with tokens := rest })
  | .anchor name :: rest => do
      let state ← { state with tokens := rest }.look
      .ok (⟨some name, none⟩, state)
  | .tag handle? suffix :: rest => do
      let state ← { state with tokens := rest }.look
      .ok (⟨none, some (handle?, suffix)⟩, state)
  | _ => .ok (⟨none, none⟩, state)

def isEmpty (properties : Properties) : Bool :=
  properties.anchor?.isNone && properties.tag?.isNone

def fullTag (properties : Properties) (state : Reading) : Except Fault (Option String) :=
  match properties.tag? with
  | none => .ok none
  | some (none, suffix) => .ok (if suffix = "!" then none else some suffix)
  | some (some handle, suffix) =>
      match state.handles.lookup handle with
      | some start => .ok (some (start ++ suffix))
      | none => .error .malformed

/-- Whether a tag is written that leaves the kind of value open. -/
def isOpen (properties : Properties) : Bool :=
  match properties.tag? with
  | some (none, suffix) => suffix = "!"
  | _ => false

/-- Gives a number to a node that is about to be read, and its anchor, which no other node
has. -/
def number (properties : Properties) (state : Reading) : Except Fault (Nat × Reading) :=
  let (number, state) := state.add default
  match properties.anchor? with
  | none => .ok (number, state)
  | some anchor =>
      if (state.anchors.lookup anchor).isSome then
        .error .malformed
      else
        .ok (number, { state with anchors := (anchor, number) :: state.anchors })

end Properties

namespace Node

def absent : Node :=
  .scalar Tag.null ""

def ofScalar (properties : Properties) (tag? : Option String) (content : String)
    (isPlain : Bool) : Node :=
  match tag? with
  | some tag => .scalar tag content
  | none =>
      if isPlain || properties.isOpen then
        .scalar (Tag.ofPlain content) content
      else
        .scalar Tag.text content

/-- Where a node stands: `block` collections are possible, `indentless` also
sequences that are not indented. -/
inductive Place where
  | flow
  | block
  | indentless
  deriving DecidableEq, Repr

inductive Layout where
  | block
  | indentless
  | flow
  deriving DecidableEq, Repr

mutual

def read : Nat → Place → Reading → Except Fault (Nat × Reading)
  | 0, _, _ => .error .malformed
  | fuel + 1, place, state =>
      match state.tokens with
      | .alias name :: _ =>
          match state.anchors.lookup name with
          | some number => .ok (number, state.next)
          | none => .error .malformed
      | _ => do
          let (properties, state) ← Properties.read state
          let tag? ← properties.fullTag state
          let (number, state) ← properties.number (← state.look)
          let sequence := tag?.getD Tag.sequence
          let mapping := tag?.getD Tag.mapping
          let (node, state) ← match state.peek with
            | some (.scalar content isPlain) =>
                .ok (ofScalar properties tag? content isPlain, state.next)
            | some .flowSequenceStart => do
                let (items, state) ← readItems fuel .flow true [] state.next
                .ok (.sequence sequence items, state)
            | some .flowMappingStart => do
                let (entries, state) ← readFlowEntries fuel true [] state.next
                .ok (.mapping mapping entries, state)
            | some .blockSequenceStart =>
                if place = .flow then
                  missing properties tag? state
                else do
                  let (items, state) ← readItems fuel .block true [] state.next
                  .ok (.sequence sequence items, state)
            | some .blockMappingStart =>
                if place = .flow then
                  missing properties tag? state
                else do
                  let (entries, state) ← readBlockEntries fuel [] state.next
                  .ok (.mapping mapping entries, state)
            | some .blockEntry =>
                if place = .indentless then do
                  let (items, state) ← readItems fuel .indentless true [] state
                  .ok (.sequence sequence items, state)
                else
                  missing properties tag? state
            | _ => missing properties tag? state
          .ok (number, state.put number node)

def missing (properties : Properties) (tag? : Option String) (state : Reading) :
    Except Fault (Node × Reading) :=
  if properties.isEmpty then
    .error state.refuse
  else
    .ok (ofScalar properties tag? "" (properties.tag?.isNone), state)

def readItems : Nat → Layout → Bool → List Nat → Reading →
    Except Fault (List Nat × Reading)
  | 0, _, _, _, _ => .error .malformed
  | fuel + 1, layout, first, out, state =>
      match layout with
      | .flow => do
          if state.comes [.flowSequenceEnd] then
            .ok (out.reverse, state.next)
          else
            let state ← if first then .ok state else state.expect .flowEntry
            if state.comes [.flowSequenceEnd] then
              .ok (out.reverse, state.next)
            else if state.comes [.key] then
              let (key, state) ←
                readOptional fuel .flow [.value, .flowEntry, .flowSequenceEnd] state.next
              let (value, state) ←
                readValue fuel .flow [.flowEntry, .flowSequenceEnd] state
              let (item, state) := state.add (.mapping Tag.mapping [(key, value)])
              readItems fuel layout false (item :: out) state
            else
              let (item, state) ← read fuel .flow state
              readItems fuel layout false (item :: out) state
      | .block => do
          if state.comes [.blockEntry] then
            let (item, state) ←
              readOptional fuel .block [.blockEntry, .blockEnd] state.next
            readItems fuel layout false (item :: out) state
          else
            let state ← state.expect .blockEnd
            .ok (out.reverse, state)
      | .indentless => do
          if state.comes [.blockEntry] then
            let (item, state) ←
              readOptional fuel .block [.blockEntry, .key, .value, .blockEnd] state.next
            readItems fuel layout false (item :: out) state
          else
            .ok (out.reverse, state)

def readOptional : Nat → Place → List Token → Reading → Except Fault (Nat × Reading)
  | 0, _, _, _ => .error .malformed
  | fuel + 1, place, ends, state =>
      if state.comes ends then .ok (state.add absent) else read fuel place state

def readValue : Nat → Place → List Token → Reading → Except Fault (Nat × Reading)
  | 0, _, _, _ => .error .malformed
  | fuel + 1, place, ends, state =>
      if state.comes [.value] then
        readOptional fuel place ends state.next
      else
        .ok (state.add absent)

def readBlockEntries : Nat → NodeEntries → Reading →
    Except Fault (NodeEntries × Reading)
  | 0, _, _ => .error .malformed
  | fuel + 1, out, state => do
      if state.comes [.key] then
        let (key, state) ←
          readOptional fuel .indentless [.key, .value, .blockEnd] state.next
        let (value, state) ← readValue fuel .indentless [.key, .value, .blockEnd] state
        readBlockEntries fuel ((key, value) :: out) state
      else
        let state ← state.expect .blockEnd
        .ok (out.reverse, state)

def readFlowEntries : Nat → Bool → NodeEntries → Reading →
    Except Fault (NodeEntries × Reading)
  | 0, _, _, _ => .error .malformed
  | fuel + 1, first, out, state => do
      if state.comes [.flowMappingEnd] then
        .ok (out.reverse, state.next)
      else
        let state ← if first then .ok state else state.expect .flowEntry
        if state.comes [.flowMappingEnd] then
          .ok (out.reverse, state.next)
        else if state.comes [.key] then
          let (key, state) ←
            readOptional fuel .flow [.value, .flowEntry, .flowMappingEnd] state.next
          let (value, state) ← readValue fuel .flow [.flowEntry, .flowMappingEnd] state
          readFlowEntries fuel false ((key, value) :: out) state
        else
          let (key, state) ← read fuel .flow state
          let (value, state) := state.add absent
          readFlowEntries fuel false ((key, value) :: out) state

end

def standardHandles : List (String × String) :=
  [("!", "!"), ("!!", Tag.standard "")]

def directives (version : Bool) (handles : List (String × String)) :
    List Token → Except Fault (List (String × String) × List Token)
  | .directive (.version major _) :: rest =>
      if version || major ≠ 1 then .error .malformed else directives true handles rest
  | .directive (.tag handle start) :: rest =>
      if (handles.lookup handle).isSome then
        .error .malformed
      else
        directives version ((handle, start) :: handles) rest
  | .directive .other :: rest => directives version handles rest
  | tokens => .ok (handles ++ standardHandles, tokens)

def isSeparator : Token → Bool
  | .directive _ => true
  | .documentStart => true
  | .documentEnd => true
  | _ => false

def readRoot (handles : List (String × String)) (tokens : List Token) :
    Except Fault (Graph × List Token) := do
  let (root, state) ← read (4 * tokens.length + 8) .block (.start handles tokens)
  .ok (⟨state.nodes, root⟩, state.tokens)

def content (handles : List (String × String)) (tokens : List Token) :
    Except Fault (Graph × List Token) :=
  match tokens with
  | [] => .ok (⟨#[absent], 0⟩, [])
  | token :: _ =>
      if isSeparator token then .ok (⟨#[absent], 0⟩, tokens) else readRoot handles tokens

def firstDocument (tokens : List Token) : Except Fault (Option Graph × List Token) := do
  match tokens with
  | [] => .ok (none, [])
  | .directive _ :: _ | .documentStart :: _ => do
      let (handles, rest) ← directives false [] tokens
      match rest with
      | .documentStart :: rest => do
          let (graph, rest) ← content handles rest
          .ok (some graph, rest)
      | rest => .error (Reading.start handles rest).refuse
  | _ => do
      let (graph, rest) ← readRoot standardHandles tokens
      .ok (some graph, rest)

/-- Reads the only document.  The directives of another one are read before it is refused. -/
def ofTokens (tokens : List Token) : Except Fault (Option Graph) := do
  let (graph?, rest) ← firstDocument tokens
  match rest.dropWhile (· = .documentEnd) with
  | [] => .ok graph?
  | rest => do
      let (handles, rest) ← directives false [] rest
      .error (Reading.start handles rest).refuse

end Node

end ApiDocs.Yaml
