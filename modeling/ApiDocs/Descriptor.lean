import ApiDocs.Name
import ApiDocs.Text.Quoted

namespace ApiDocs

/-! Descriptors: the letter of a kind of symbol, a colon and the name of the symbol. -/

inductive MemberKind where
  | type
  | method
  | field
  | property
  | event
  | constructor
  deriving DecidableEq, Repr

namespace MemberKind

def word : MemberKind → String
  | type => "type"
  | method => "method"
  | field => "field"
  | property => "property"
  | event => "event"
  | constructor => "constructor"

def letters : List (String × MemberKind) :=
  [("T", type), ("M", method), ("E", event), ("F", field), ("P", property)]

def ofLetter? (letter : String) : Option MemberKind :=
  letters.lookup letter

end MemberKind

structure Descriptor where
  kind : MemberKind
  name : String
  deriving DecidableEq, Repr

namespace Descriptor

inductive Error where
  | malformed (text : String)
  | unknownKind (letter : String)
  deriving DecidableEq, Repr

def Error.message : Error → String
  | malformed text => s!"invalid name descriptor: {Text.quote text}"
  | unknownKind letter => s!"unknown member descriptor: {Text.quote letter}"

def kindOfLetter (letter : String) : Except Error MemberKind :=
  match MemberKind.ofLetter? letter with
  | some kind => .ok kind
  | none => .error (.unknownKind letter)

def parse (text : String) : Except Error Descriptor :=
  match Text.split ':' text with
  | [letter, name] =>
      if name.isEmpty then
        .error (.malformed text)
      else
        (kindOfLetter letter).map fun kind => ⟨kind, name⟩
  | _ => .error (.malformed text)

end Descriptor

end ApiDocs
