import ApiDocs.Yaml.Property

namespace ApiDocs.Yaml

/-! Tokens.  That a token opens a mapping is known only at its colon, so tokens in front
of it are added later. -/

/-- A token of a text.  A failure is the last: nothing can be read behind it. -/
inductive Token where
  | directive (content : Directive)
  | documentStart
  | documentEnd
  | blockSequenceStart
  | blockMappingStart
  | blockEnd
  | flowSequenceStart
  | flowSequenceEnd
  | flowMappingStart
  | flowMappingEnd
  | blockEntry
  | flowEntry
  | key
  | value
  | alias (name : String)
  | anchor (name : String)
  | tag (handle? : Option String) (suffix : String)
  | scalar (text : String) (isPlain : Bool)
  | failure (fault : Fault)
  deriving DecidableEq, Repr

/-- A token that turns out to be a key if a colon follows it in the same line:
its number and place.  A `required` one must be a key. -/
structure Candidate where
  number : Nat
  required : Bool
  index : Nat
  line : Nat
  column : Nat
  deriving Repr

/-- What is known while tokens are read, which are kept last first.  `indents` are
the columns of the open block collections, innermost first, and `candidates` the
possible keys by the depth of flow collections. -/
structure Scanning where
  cursor : Cursor
  tokens : List Token
  count : Nat
  depth : Nat
  indents : List Nat
  keysAllowed : Bool
  candidates : List (Nat × Candidate)
  deriving Repr

namespace Scanning

def start (text : List Char) : Scanning :=
  let cursor := Cursor.start text
  let cursor := if cursor.peek = some '\ufeff' then cursor.next else cursor
  ⟨cursor, [], 0, 0, [], true, []⟩

/-- The column of the innermost block collection; one to the left of all columns
outside of them. -/
def indent (state : Scanning) : Int :=
  match state.indents with
  | [] => -1
  | column :: _ => column

def inFlow (state : Scanning) : Bool :=
  state.depth ≠ 0

def add (token : Token) (state : Scanning) : Scanning :=
  { state with tokens := token :: state.tokens, count := state.count + 1 }

def insertAt (number : Nat) (token : Token) (state : Scanning) : Scanning :=
  let (later, earlier) := state.tokens.splitAt (state.count - number)
  { state with tokens := later ++ token :: earlier, count := state.count + 1 }

def unwind (column : Int) (state : Scanning) : Scanning :=
  if state.inFlow then
    state
  else
    let ended := state.indents.takeWhile fun (indent : Nat) => column < indent
    { state with
      indents := state.indents.drop ended.length
      tokens := List.replicate ended.length .blockEnd ++ state.tokens
      count := state.count + ended.length }

def startsBlock (column : Nat) (state : Scanning) : Bool × Scanning :=
  if state.indent < column then
    (true, { state with indents := column :: state.indents })
  else
    (false, state)

/-- Whether the line of a candidate has ended or the candidate is too long. -/
def isStale (state : Scanning) (candidate : Candidate) : Bool :=
  candidate.line != state.cursor.line || candidate.index + 1024 < state.cursor.index

def dropStale (state : Scanning) : Except Fault Scanning :=
  let stale := state.candidates.filter fun (_, candidate) => state.isStale candidate
  if stale.any fun (_, candidate) => candidate.required then
    .error .malformed
  else
    .ok { state with
      candidates := state.candidates.filter fun (_, candidate) => !state.isStale candidate }

def dropCandidate (state : Scanning) : Except Fault Scanning :=
  match state.candidates.lookup state.depth with
  | none => .ok state
  | some candidate =>
      if candidate.required then
        .error .malformed
      else
        .ok { state with candidates := state.candidates.filter (·.1 ≠ state.depth) }

def saveCandidate (state : Scanning) : Except Fault Scanning :=
  if state.keysAllowed then do
    let state ← state.dropCandidate
    let cursor := state.cursor
    let required := !state.inFlow && state.indent = (cursor.column : Int)
    let candidate : Candidate :=
      ⟨state.count, required, cursor.index, cursor.line, cursor.column⟩
    .ok { state with candidates := (state.depth, candidate) :: state.candidates }
  else
    .ok state

def skipToToken : Nat → Scanning → Scanning
  | 0, state => state
  | fuel + 1, state =>
      let cursor := state.cursor.skipSpaces.skipComment
      match cursor.lineBreak? with
      | none => { state with cursor }
      | some (_, cursor) =>
          skipToToken fuel
            { state with cursor, keysAllowed := state.keysAllowed || !state.inFlow }

def take (length : Nat) (token : Token) (state : Scanning) : Scanning :=
  { state.add token with cursor := state.cursor.skip length }

def separate (state : Scanning) : Except Fault Scanning := do
  let state ← (state.unwind (-1)).dropCandidate
  .ok { state with keysAllowed := false }

def documentMark (token : Token) (state : Scanning) : Except Fault Scanning := do
  let state ← state.separate
  .ok (state.take 3 token)

def directive (state : Scanning) : Except Fault Scanning := do
  let state ← state.separate
  let (content, cursor) ← Property.directive state.cursor.next
  .ok { state.add (.directive content) with cursor }

def openFlow (token : Token) (state : Scanning) : Except Fault Scanning := do
  let state ← state.saveCandidate
  .ok { state.take 1 token with depth := state.depth + 1, keysAllowed := true }

def closeFlow (token : Token) (state : Scanning) : Except Fault Scanning :=
  if state.inFlow then do
    let state ← state.dropCandidate
    .ok { state.take 1 token with depth := state.depth - 1, keysAllowed := false }
  else
    .error .malformed

def flowEntry (state : Scanning) : Except Fault Scanning := do
  let state ← state.dropCandidate
  .ok { state.take 1 .flowEntry with keysAllowed := true }

/-- Starts a block collection at the present place if none goes on there.  Outside
of flow collections that is possible only where a key may stand. -/
def enterBlock (opening : Token) (state : Scanning) : Except Fault Scanning :=
  if state.inFlow then
    .ok state
  else if !state.keysAllowed then
    .error .malformed
  else
    match state.startsBlock state.cursor.column with
    | (true, state) => .ok (state.add opening)
    | (false, state) => .ok state

def blockEntry (state : Scanning) : Except Fault Scanning := do
  let state ← state.enterBlock .blockSequenceStart
  let state ← state.dropCandidate
  .ok { state.take 1 .blockEntry with keysAllowed := true }

def key (state : Scanning) : Except Fault Scanning := do
  let state ← state.enterBlock .blockMappingStart
  let state ← state.dropCandidate
  .ok { state.take 1 .key with keysAllowed := !state.inFlow }

/-- A colon makes a key of the candidate before it. -/
def value (state : Scanning) : Except Fault Scanning :=
  match state.candidates.lookup state.depth with
  | some candidate =>
      let state := { state with
        candidates := state.candidates.filter (·.1 ≠ state.depth), keysAllowed := false }
      let state := state.insertAt candidate.number .key
      let state :=
        if state.inFlow then
          state
        else
          match state.startsBlock candidate.column with
          | (true, state) => state.insertAt candidate.number .blockMappingStart
          | (false, state) => state
      .ok (state.take 1 .value)
  | none => do
      let state ← state.enterBlock .blockMappingStart
      .ok { state.take 1 .value with keysAllowed := !state.inFlow }

def mayBeKey (read : Cursor → Except Fault (Token × Cursor)) (state : Scanning) :
    Except Fault Scanning := do
  let state ← state.saveCandidate
  let (token, cursor) ← read state.cursor
  .ok { state.add token with cursor, keysAllowed := false }

def readTag (cursor : Cursor) : Except Fault (Token × Cursor) :=
  (Property.tag cursor).map fun ((handle?, suffix), cursor) => (.tag handle? suffix, cursor)

def readQuoted (double : Bool) (cursor : Cursor) : Except Fault (Token × Cursor) :=
  (Scalar.quoted double cursor.fuel [] cursor.next).map fun (text, cursor) =>
    (.scalar (String.ofList text) false, cursor)

def block (folded : Bool) (state : Scanning) : Except Fault Scanning := do
  let state ← state.dropCandidate
  let (text, cursor) ← Scalar.block folded state.indent state.cursor.next
  .ok { state.add (.scalar (String.ofList text) false) with cursor, keysAllowed := true }

def plain (state : Scanning) : Except Fault Scanning := do
  let state ← state.saveCandidate
  let found :=
    Scalar.plain state.inFlow (state.indent + 1) state.cursor.fuel false [] [] state.cursor
  .ok { state.add (.scalar (String.ofList found.text) true) with
    cursor := found.cursor, keysAllowed := found.broken }

def indicators : List Char :=
  "-?:,[]\x7b\x7d#&*!|>\x27\x22%@\x60".toList

def startsPlain (inFlow : Bool) (c : Char) (after : Option Char) : Bool :=
  !(isBlankOrEnd (some c) || indicators.contains c) ||
    (!isBlankOrEnd after && (c = '-' || (!inFlow && (c = '?' || c = ':'))))

def token (c : Char) (state : Scanning) : Except Fault Scanning :=
  let cursor := state.cursor
  let alone := isBlankOrEnd (cursor.peekAt 1)
  if c = '%' && cursor.column = 0 then state.directive
  else if cursor.column = 0 && cursor.startsWithMark '-' then state.documentMark .documentStart
  else if cursor.column = 0 && cursor.startsWithMark '.' then state.documentMark .documentEnd
  else if c = '[' then state.openFlow .flowSequenceStart
  else if c = '\x7b' then state.openFlow .flowMappingStart
  else if c = ']' then state.closeFlow .flowSequenceEnd
  else if c = '\x7d' then state.closeFlow .flowMappingEnd
  else if c = ',' then state.flowEntry
  else if c = '-' && alone then state.blockEntry
  else if c = '?' && (state.inFlow || alone) then state.key
  else if c = ':' && (state.inFlow || alone) then state.value
  else if c = '*' then
    state.mayBeKey fun cursor =>
      (Property.anchor cursor.next).map fun (name, cursor) => (.alias name, cursor)
  else if c = '&' then
    state.mayBeKey fun cursor =>
      (Property.anchor cursor.next).map fun (name, cursor) => (.anchor name, cursor)
  else if c = '!' then state.mayBeKey readTag
  else if c = '|' && !state.inFlow then state.block false
  else if c = '>' && !state.inFlow then state.block true
  else if c = '\x27' then state.mayBeKey (readQuoted false)
  else if c = '\x22' then state.mayBeKey (readQuoted true)
  else if startsPlain state.inFlow c (cursor.peekAt 1) then state.plain
  else .error .malformed

/-- The tokens up to a fault.  None is handed out while a colon may still make it a key, so
those from the first such token on are lost. -/
def fail (fault : Fault) (state : Scanning) : List Token :=
  let numbers := state.candidates.filterMap fun (_, candidate) =>
    if state.isStale candidate then none else some candidate.number
  state.tokens.reverse.take (numbers.min?.getD state.count) ++ [.failure fault]

def step (state : Scanning) : Except Fault (Scanning × Bool) := do
  let state ← (skipToToken state.cursor.fuel state).dropStale
  let state := state.unwind state.cursor.column
  match state.cursor.peek with
  | none => return (← state.separate, true)
  | some c => return (← state.token c, false)

def run : Nat → Scanning → List Token
  | 0, state => state.tokens.reverse
  | fuel + 1, state =>
      match state.step with
      | .error fault => state.fail fault
      | .ok (state, true) => state.tokens.reverse
      | .ok (state, false) => run fuel state

end Scanning

def Token.ofText (text : List Char) : List Token :=
  let state := Scanning.start text
  Scanning.run state.cursor.fuel state

end ApiDocs.Yaml
