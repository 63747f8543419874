import ApiDocs.Text.Digit
import ApiDocs.Text.Quoted

namespace ApiDocs.Command

/-! Command lines.  Words are told apart first, each by itself; then switches and paths
are read from left to right.  Only paths that follow one another count. -/

inductive Switch where
  | config
  | verbose
  deriving DecidableEq, Repr

namespace Switch

/-- A name of a switch that may be cut short. -/
def longName : Switch → String
  | config => "--config"
  | verbose => "--verbose"

def all : List Switch := [config, verbose]

def ofName? (name : String) : Option Switch :=
  if name = "-v" then some .verbose else all.find? (·.longName = name)

def startingWith (start : String) : List Switch :=
  all.filter fun switch => start.toList.isPrefixOf switch.longName.toList

def title : Switch → String
  | config => "--config"
  | verbose => "-v/--verbose"

end Switch

inductive ArgumentError where
  | ambiguous (word : String) (candidates : List Switch)
  | missingValue (switch : Switch)
  | unexpectedValue (switch : Switch) (value : String)
  deriving DecidableEq, Repr

def ArgumentError.message : ArgumentError → String
  | ambiguous word candidates =>
      s!"ambiguous option: {word} could match " ++
        ", ".intercalate (candidates.map Switch.longName)
  | missingValue switch => s!"argument {switch.title}: expected one argument"
  | unexpectedValue switch value =>
      s!"argument {switch.title}: ignored explicit argument {Text.quote value}"

inductive Word where
  | plain (text : String)
  | divider
  | switch (switch : Switch) (short : Bool) (value? : Option String)
  | unknown (text : String)
  deriving DecidableEq, Repr

namespace Word

def cutValue (text : List Char) : String × Option String :=
  let name := String.ofList (text.takeWhile (· != '='))
  match text.dropWhile (· != '=') with
  | [] => (name, none)
  | _ :: value => (name, some (String.ofList value))

def isDigit (c : Char) : Bool :=
  (Text.digitValue? c).isSome

/-- Digits, perhaps with a point among them that digits follow.  A line feed at the end
does not count. -/
def isNumeral (cs : List Char) : Bool :=
  let cs := if cs.getLast? = some '\n' then cs.dropLast else cs
  match cs.dropWhile isDigit with
  | [] => !cs.isEmpty
  | '.' :: rest => !rest.isEmpty && rest.all isDigit
  | _ => false

/-- A word with a dash in front that names no switch.  Negative numbers and texts with
blanks in them are plain. -/
def unnamed (text : String) : Word :=
  if isNumeral (text.toList.drop 1) || text.toList.contains ' ' then
    .plain text
  else
    .unknown text

def long (text : String) : Except ArgumentError Word :=
  let (start, value?) := cutValue text.toList
  match Switch.startingWith start with
  | [] => .ok (unnamed text)
  | [found] => .ok (.switch found false value?)
  | candidates => .error (.ambiguous text candidates)

def classify (text : String) : Except ArgumentError Word :=
  match text.toList with
  | ['-', '-'] => .ok .divider
  | '-' :: c :: more =>
      let (name, value?) := cutValue text.toList
      match Switch.ofName? name with
      | some found => .ok (.switch found (c != '-') value?)
      | none =>
          if c = '-' then
            long text
          else if c = 'v' then
            .ok (.switch .verbose true (some (String.ofList more)))
          else
            .ok (unnamed text)
  | _ => .ok (.plain text)

def classifyAll : List String → Except ArgumentError (List Word)
  | [] => .ok []
  | text :: rest => do
      let word ← classify text
      if word = .divider then
        .ok (.divider :: rest.map .plain)
      else
        .ok (word :: (← classifyAll rest))

end Word

/-- Where the settings come from: they are the standard ones, or a file holds them, or
a path is asked for and none is named. -/
inductive ConfigSource where
  | standard
  | file (path : String)
  | nameless
  deriving DecidableEq, Repr

def ConfigSource.ofValue (value : String) : ConfigSource :=
  if value = "--" then .nameless else .file value

/-- Whether the paths of a command line are still to come, are being read or have been
read: only those that follow one another count. -/
inductive PathState where
  | ahead
  | here
  | behind
  deriving DecidableEq, Repr

namespace PathState

def afterSwitch : PathState → PathState
  | ahead => ahead
  | _ => behind

end PathState

structure Arguments where
  config : ConfigSource
  verbose : Bool
  paths : List String
  extras : List String
  deriving DecidableEq, Repr

namespace Arguments

def none : Arguments := ⟨.standard, false, [], []⟩

def addPlain (state : PathState) (text : String) (arguments : Arguments) : Arguments :=
  if state = .behind then
    { arguments with extras := arguments.extras ++ [text] }
  else
    { arguments with paths := arguments.paths ++ [text] }

def addDivider (state : PathState) (arguments : Arguments) : Arguments :=
  if state = .behind then
    { arguments with extras := arguments.extras ++ ["--"] }
  else
    arguments

def afterPlain (state : PathState) : PathState :=
  if state = .behind then .behind else .here

/-- Turns a switch on that takes no value.  Its letter may be repeated. -/
def makeVerbose (short : Bool) (value? : Option String) (arguments : Arguments) :
    Except ArgumentError Arguments :=
  match value? with
  | .none => .ok { arguments with verbose := true }
  | some value =>
      let rest := if short then value.toList.dropWhile (· == 'v') else value.toList
      if rest.isEmpty && short && !value.isEmpty then
        .ok { arguments with verbose := true }
      else
        .error (.unexpectedValue .verbose (String.ofList rest))

def read (state : PathState) (arguments : Arguments) :
    List Word → Except ArgumentError Arguments
  | [] => .ok arguments
  | .plain text :: rest => read (afterPlain state) (arguments.addPlain state text) rest
  | .divider :: rest => read (afterPlain state) (arguments.addDivider state) rest
  | .unknown text :: rest =>
      read state.afterSwitch { arguments with extras := arguments.extras ++ [text] } rest
  | .switch .verbose short value? :: rest => do
      let arguments ← arguments.makeVerbose short value?
      read state.afterSwitch arguments rest
  | .switch .config _ (.some value) :: rest =>
      read state.afterSwitch { arguments with config := .ofValue value } rest
  | .switch .config _ .none :: .plain value :: rest =>
      read state.afterSwitch { arguments with config := .file value } rest
  | .switch .config _ .none :: _ => .error (.missingValue .config)

def ofWords (words : List String) : Except ArgumentError Arguments := do
  read .ahead none (← Word.classifyAll words)

end Arguments

end ApiDocs.Command
