import ApiDocs.Text.Digit

namespace ApiDocs.Toml

/-! What stands between values: spaces and comments; and texts, the values made of them. -/

/-- Why a document has no value: it is malformed, or an integer in it has more digits
than can be read. -/
inductive Fault where
  | malformed
  | longInteger (digits : Nat)
  deriving DecidableEq, Repr

def Fault.message? : Fault → Option String
  | malformed => none
  | longInteger digits =>
      some (s!"Exceeds the limit (4300 digits) for integer string conversion: value has " ++
        s!"{digits} digits; use sys.set_int_max_str_digits() to increase the limit")

abbrev Read (α : Type) := α × List Char

def isSpace (c : Char) : Bool :=
  c = ' ' || c = '\t'

def skipSpaces (cs : List Char) : List Char :=
  cs.dropWhile isSpace

def isControl (c : Char) : Bool :=
  (c.toNat < 0x20 && c != '\t') || c.toNat = 0x7F

def skipComment (cs : List Char) : Except Fault (List Char) :=
  match cs with
  | '#' :: rest =>
      let text := rest.takeWhile (· != '\n')
      if text.any isControl then .error .malformed else .ok (rest.drop text.length)
  | _ => .ok cs

namespace Text

def escapes : List (Char × Char) := [
  ('b', '\x08'), ('t', '\t'), ('n', '\n'), ('f', '\x0c'), ('r', '\r'),
  ('\x22', '\x22'), ('\\', '\\')]

def numbered (count : Nat) (cs : List Char) : Except Fault (Read Char) :=
  let digits := cs.take count
  let code := Text.hexValue digits
  if digits.length = count && digits.all Text.isHexDigit && code.isValidChar then
    .ok (Char.ofNat code, cs.drop count)
  else
    .error .malformed

def continueLine (cs : List Char) : Except Fault (List Char) :=
  match skipSpaces cs with
  | [] => .ok []
  | '\n' :: rest => .ok (rest.dropWhile fun c => isSpace c || c = '\n')
  | _ => .error .malformed

def escape (multiline : Bool) (out cs : List Char) : Except Fault (Read (List Char)) :=
  match cs with
  | [] => .error .malformed
  | c :: rest =>
      if multiline && (isSpace c || c = '\n') then
        (continueLine cs).map fun rest => (out, rest)
      else if c = 'u' then
        (numbered 4 rest).map fun (d, rest) => (d :: out, rest)
      else if c = 'U' then
        (numbered 8 rest).map fun (d, rest) => (d :: out, rest)
      else
        match escapes.lookup c with
        | some d => .ok (d :: out, rest)
        | none => .error .malformed

/-- Reads a basic string behind its opening.  `out` holds the text, last first. -/
def basic (multiline : Bool) : Nat → List Char → List Char → Except Fault (Read (List Char))
  | 0, _, _ => .error .malformed
  | _, _, [] => .error .malformed
  | fuel + 1, out, c :: rest =>
      if c = '\x22' then
        if !multiline then
          .ok (out, rest)
        else
          match rest with
          | '\x22' :: '\x22' :: rest => .ok (out, rest)
          | _ => basic multiline fuel (c :: out) rest
      else if c = '\\' then
        match escape multiline out rest with
        | .ok (out, rest) => basic multiline fuel out rest
        | .error fault => .error fault
      else if isControl c && !(multiline && c = '\n') then
        .error .malformed
      else
        basic multiline fuel (c :: out) rest

def verbatim (multiline : Bool) (out : List Char) : List Char → Except Fault (Read (List Char))
  | [] => .error .malformed
  | '\x27' :: '\x27' :: '\x27' :: rest =>
      if multiline then .ok (out, rest) else .ok (out, '\x27' :: '\x27' :: rest)
  | c :: rest =>
      if c = '\x27' && !multiline then
        .ok (out, rest)
      else if isControl c && !(multiline && c = '\n') then
        .error .malformed
      else
        verbatim multiline (c :: out) rest

/-- One or two more quotes behind the end of a string over lines belong to it. -/
def moreQuotes (quote : Char) (out : List Char) (cs : List Char) : Read (List Char) :=
  match cs with
  | c :: d :: rest =>
      if c = quote then
        if d = quote then (quote :: quote :: out, rest) else (quote :: out, d :: rest)
      else
        (out, cs)
  | [c] => if c = quote then (quote :: out, []) else (out, cs)
  | [] => (out, cs)

def dropFirstBreak : List Char → List Char
  | '\n' :: rest => rest
  | cs => cs

def finish (read : Read (List Char)) : Read String :=
  (String.ofList read.1.reverse, read.2)

def read? (cs : List Char) : Option (Except Fault (Read String)) :=
  match cs with
  | '\x22' :: '\x22' :: '\x22' :: rest =>
      let rest := dropFirstBreak rest
      some ((basic true (rest.length + 1) [] rest).map fun (out, rest) =>
        finish (moreQuotes '\x22' out rest))
  | '\x27' :: '\x27' :: '\x27' :: rest =>
      some ((verbatim true [] (dropFirstBreak rest)).map fun (out, rest) =>
        finish (moreQuotes '\x27' out rest))
  | '\x22' :: rest => some ((basic false (rest.length + 1) [] rest).map finish)
  | '\x27' :: rest => some ((verbatim false [] rest).map finish)
  | _ => none

end Text

namespace Key

def isBare (c : Char) : Bool :=
  c.isAlphanum || c = '-' || c = '_'

def part (cs : List Char) : Except Fault (Read String) :=
  match cs with
  | '\x22' :: rest => (Text.basic false (rest.length + 1) [] rest).map Text.finish
  | '\x27' :: rest => (Text.verbatim false [] rest).map Text.finish
  | _ =>
      let word := cs.takeWhile isBare
      if word.isEmpty then
        .error .malformed
      else
        .ok (String.ofList word, cs.drop word.length)

/-- Reads the parts of a key, which dots separate.  `out` holds the parts before,
last first. -/
def parts : Nat → List String → List Char → Except Fault (Read (List String))
  | 0, _, _ => .error .malformed
  | fuel + 1, out, cs => do
      let (first, rest) ← part cs
      match skipSpaces rest with
      | '.' :: rest => parts fuel (first :: out) (skipSpaces rest)
      | rest => .ok ((first :: out).reverse, rest)

def read (cs : List Char) : Except Fault (Read (List String)) :=
  parts (cs.length + 1) [] cs

end Key

end ApiDocs.Toml
