import ApiDocs.Decimal.Integer
import ApiDocs.Decimal.Reading
import ApiDocs.Toml.Text
import ApiDocs.Value

namespace ApiDocs.Toml

/-! Values and the keys that lead to them. -/

abbrev Table := List (Value × Value)

namespace Table

/-- Changes the table that a path leads to, creating tables on the way.  A path that
`entersArrays` leads through the last table of an array. -/
def modify (entersArrays : Bool) (change : Table → Except Fault Table) :
    List String → Table → Except Fault Table
  | [], table => change table
  | name :: path, table =>
      match Value.get? table name with
      | none => do
          let inner ← modify entersArrays change path []
          .ok (Value.insert table (.text name) (.map inner))
      | some (.map inner) => do
          let inner ← modify entersArrays change path inner
          .ok (Value.insert table (.text name) (.map inner))
      | some (.list items) =>
          match entersArrays, items.getLast? with
          | true, some (.map last) => do
              let last ← modify entersArrays change path last
              .ok (Value.insert table (.text name) (.list (items.dropLast ++ [.map last])))
          | _, _ => .error .malformed
      | some _ => .error .malformed

def add (name : String) (value : Value) (table : Table) : Except Fault Table :=
  match Value.get? table name with
  | none => .ok (Value.insert table (.text name) value)
  | some _ => .error .malformed

def addToArray (name : String) (table : Table) : Except Fault Table :=
  match Value.get? table name with
  | none => .ok (Value.insert table (.text name) (.list [.map []]))
  | some (.list items) =>
      .ok (Value.insert table (.text name) (.list (items ++ [.map []])))
  | some _ => .error .malformed

end Table

def splitKey (key : List String) : List String × String :=
  (key.dropLast, key.getLastD "")

namespace Number

def digitRun (isDigit : Char → Bool) (inside : Bool) : List Char → List Char
  | '_' :: c :: rest =>
      if inside && isDigit c then digitRun isDigit true rest else '_' :: c :: rest
  | c :: rest => if isDigit c then digitRun isDigit true rest else c :: rest
  | [] => []

def afterDigits? (isDigit : Char → Bool) (cs : List Char) : Option (List Char) :=
  let rest := digitRun isDigit false cs
  if rest.length < cs.length then some rest else none

def bases : List (Char × Nat × (Char → Bool)) := [
  ('x', 16, Text.isHexDigit), ('b', 2, fun c => c = '0' || c = '1'),
  ('o', 8, fun c => '0' ≤ c && c ≤ '7')]

def marked? (cs : List Char) : Option (Read Value) :=
  match cs with
  | '0' :: letter :: rest => do
      let (base, isDigit) ← bases.lookup letter
      let behind ← afterDigits? isDigit rest
      let digits := (rest.take (rest.length - behind.length)).filter (· != '_')
      let value := digits.foldl (fun n c => n * base + Text.hexDigitValue c) 0
      some (.int value, behind)
  | _ => none

def afterWhole? (cs : List Char) : Option (List Char) :=
  match cs with
  | '0' :: rest => some rest
  | _ => afterDigits? Char.isDigit cs

def afterFraction (cs : List Char) : List Char :=
  match cs with
  | '.' :: rest => (afterDigits? Char.isDigit rest).getD cs
  | _ => cs

def afterExponent (cs : List Char) : List Char :=
  match cs with
  | e :: rest =>
      if e = 'e' || e = 'E' then
        let digits := match rest with
          | '+' :: digits => digits
          | '-' :: digits => digits
          | _ => rest
        (afterDigits? Char.isDigit digits).getD cs
      else
        cs
  | [] => cs

def decimal? (cs : List Char) : Option (Except Fault (Read Value)) := do
  let bare := match cs with
    | '+' :: rest => rest
    | '-' :: rest => rest
    | _ => cs
  let whole ← afterWhole? bare
  let behind := afterExponent (afterFraction whole)
  let text := (cs.take (cs.length - behind.length)).filter (· != '_')
  if behind.length < whole.length then
    some (.ok (.float ((Decimal.float? text).getD 0), behind))
  else
    match Decimal.integer (String.ofList text) with
    | .ok value => some (.ok (.int value, behind))
    | .error (.tooLong digits) => some (.error (.longInteger digits))
    | .error .malformed => some (.error .malformed)

def special? (cs : List Char) : Option (Read Value) :=
  match cs with
  | 'i' :: 'n' :: 'f' :: rest => some (.float (1.0 / 0.0), rest)
  | '+' :: 'i' :: 'n' :: 'f' :: rest => some (.float (1.0 / 0.0), rest)
  | '-' :: 'i' :: 'n' :: 'f' :: rest => some (.float (-1.0 / 0.0), rest)
  | 'n' :: 'a' :: 'n' :: rest => some (.float (0.0 / 0.0), rest)
  | '+' :: 'n' :: 'a' :: 'n' :: rest => some (.float (0.0 / 0.0), rest)
  | '-' :: 'n' :: 'a' :: 'n' :: rest => some (.float (0.0 / 0.0), rest)
  | _ => none

end Number

namespace Time

def field? (count least most : Nat) (cs : List Char) : Option (Read Nat) :=
  let digits := cs.take count
  let value := digits.foldl (fun n c => n * 10 + (c.toNat - 0x30)) 0
  if digits.length = count && digits.all Char.isDigit && least ≤ value && value ≤ most then
    some (value, cs.drop count)
  else
    none

def expect? (c : Char) : List Char → Option (List Char)
  | d :: rest => if d = c then some rest else none
  | [] => none

def clock? (cs : List Char) : Option (Read Nat) := do
  let (hour, rest) ← field? 2 0 23 cs
  let (minute, rest) ← field? 2 0 59 (← expect? ':' rest)
  let (second, rest) ← field? 2 0 59 (← expect? ':' rest)
  let (fraction, rest) := match rest with
    | '.' :: more =>
        let digits := more.takeWhile Char.isDigit
        if digits.isEmpty then ([], rest) else (digits, more.drop digits.length)
    | _ => ([], rest)
  let micros := ((fraction ++ List.replicate 6 '0').take 6).foldl
    (fun n c => n * 10 + (c.toNat - 0x30)) 0
  some (((hour * 60 + minute) * 60 + second) * 1000000 + micros, rest)

def offset (cs : List Char) : Read (Option Int) :=
  match cs with
  | 'Z' :: rest => (some 0, rest)
  | 'z' :: rest => (some 0, rest)
  | sign :: more =>
      let seconds? : Option (Read Int) := do
        let (hour, rest) ← field? 2 0 23 more
        let (minute, rest) ← field? 2 0 59 (← expect? ':' rest)
        some (((hour * 60 + minute) * 60 : Nat), rest)
      match seconds? with
      | some (seconds, rest) =>
          if sign = '+' then (some seconds, rest)
          else if sign = '-' then (some (-seconds), rest)
          else (none, cs)
      | none => (none, cs)
  | [] => (none, cs)

def moment (date : Date) (micros : Nat) (offset? : Option Int) : Value :=
  let seconds := micros / 1000000
  .moment ⟨date, seconds / 3600, seconds / 60 % 60, seconds % 60, micros % 1000000, offset?⟩

/-- A date, perhaps with a time.  The error says that there is no such day. -/
def date? (cs : List Char) : Option (Except Fault (Read Value)) := do
  let (year, rest) ← field? 4 0 9999 cs
  let (month, rest) ← field? 2 1 12 (← expect? '-' rest)
  let (day, rest) ← field? 2 1 31 (← expect? '-' rest)
  if year = 0 || Calendar.daysInMonth year month < day then
    some (.error .malformed)
  else
    let date : Date := ⟨year, month, day⟩
    let time? : Option (Read Nat) := match rest with
      | c :: rest => if c = 'T' || c = 't' || c = ' ' then clock? rest else none
      | [] => none
    match time? with
    | none => some (.ok (.date date, rest))
    | some (micros, rest) =>
        let (offset?, rest) := offset rest
        some (.ok (moment date micros offset?, rest))

end Time

def skipLines : Nat → List Char → Except Fault (List Char)
  | 0, cs => .ok cs
  | fuel + 1, cs => do
      let after := cs.dropWhile fun c => isSpace c || c = '\n'
      match after with
      | '#' :: _ => skipLines fuel (← skipComment after)
      | _ => .ok after

/-- A value that is neither an array nor a table.  A time of day is the number of its
microseconds. -/
def simple? (cs : List Char) : Option (Except Fault (Read Value)) :=
  match cs with
  | 't' :: 'r' :: 'u' :: 'e' :: rest => some (.ok (.bool true, rest))
  | 'f' :: 'a' :: 'l' :: 's' :: 'e' :: rest => some (.ok (.bool false, rest))
  | _ =>
      match Text.read? cs with
      | some read => some (read.map fun (text, rest) => (.text text, rest))
      | none =>
          match Time.date? cs, Time.clock? cs, Number.marked? cs with
          | some read, _, _ => some read
          | none, some (micros, rest), _ => some (.ok (.int micros, rest))
          | none, none, some read => some (.ok read)
          | none, none, none =>
              match Number.decimal? cs with
              | some read => some read
              | none => (Number.special? cs).map .ok

mutual

def readValue : Nat → List Char → Except Fault (Read Value)
  | 0, _ => .error .malformed
  | fuel + 1, cs =>
      match cs with
      | '[' :: rest => do
          let rest ← skipLines (rest.length + 1) rest
          let (items, rest) ← readItems fuel [] rest
          .ok (.list items, rest)
      | '\x7b' :: rest =>
          match skipSpaces rest with
          | '\x7d' :: rest => .ok (.map [], rest)
          | rest => do
              let (entries, rest) ← readEntries fuel [] [] rest
              .ok (.map entries, rest)
      | _ => (simple? cs).getD (.error .malformed)

def readItems : Nat → List Value → List Char → Except Fault (Read (List Value))
  | 0, _, _ => .error .malformed
  | fuel + 1, out, cs => do
      match cs with
      | ']' :: rest => .ok (out.reverse, rest)
      | _ => do
          let (item, rest) ← readValue fuel cs
          let rest ← skipLines (rest.length + 1) rest
          match rest with
          | ']' :: rest => .ok ((item :: out).reverse, rest)
          | ',' :: rest => do
              let rest ← skipLines (rest.length + 1) rest
              readItems fuel (item :: out) rest
          | _ => .error .malformed

/-- Reads the entries of a table within a value.  The keys in `closed` hold arrays and
tables, which are complete. -/
def readEntries : Nat → List (List String) → Table → List Char → Except Fault (Read Table)
  | 0, _, _, _ => .error .malformed
  | fuel + 1, closed, table, cs => do
      let (key, rest) ← Key.read cs
      let (value, rest) ← readAssigned fuel rest
      if closed.any (·.isPrefixOf key) then
        .error .malformed
      else
        let (path, name) := splitKey key
        let table ← table.modify false (Table.add name value) path
        let closed := match value with
          | .list _ => key :: closed
          | .map _ => key :: closed
          | _ => closed
        match skipSpaces rest with
        | '\x7d' :: rest => .ok (table, rest)
        | ',' :: rest => readEntries fuel closed table (skipSpaces rest)
        | _ => .error .malformed

def readAssigned : Nat → List Char → Except Fault (Read Value)
  | 0, _ => .error .malformed
  | fuel + 1, '=' :: rest => readValue fuel (skipSpaces rest)
  | _, _ => .error .malformed

end

end ApiDocs.Toml
