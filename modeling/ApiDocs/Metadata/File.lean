import ApiDocs.Metadata.Reading
import ApiDocs.Text.Utf8
import ApiDocs.Yaml.Document

namespace ApiDocs.Metadata

/-! Types in the file that describes them. -/

/-- Why a file has no types.  An `unordered` fault is one that is met in the course of reading,
perhaps after a fault of the document. -/
inductive FileError where
  | encoding (error : Text.Utf8Error)
  | yaml (fault : Yaml.Fault)
  | content (error : Error)
  | unordered (error : FileError)

namespace FileError

def message? (path : String) : FileError → Option String
  | encoding error => some error.message
  | yaml fault => fault.message?
  | content .endless => some Error.endless.message
  | content error => some s!"invalid metadata '{path}': {error.message}"
  | unordered error => error.message? path

/-- Whether nothing but this can come of reading the file.  A fault that is not told may give
way to another one, and half of a character to none. -/
def isTold : FileError → Bool
  | yaml .halfCharacter => false
  | unordered _ => false
  | _ => true

def isUnforeseen : FileError → Bool
  | yaml fault => fault.isUnforeseen
  | content .endless => true
  | _ => false

end FileError

/-- How many characters of a file are looked at before the document is. -/
def pieceSize : Nat := 4096

/-- How many bytes of a file are decoded at once. -/
def chunkSize : Nat := 8192

/-- Whether bytes end with the beginning of a character, or with what looks like one: two bytes
of a surrogate. -/
def isLeftOver (bytes : List UInt8) (error : Text.Utf8Error) : Bool :=
  error.fault = .unexpectedEnd ||
    match bytes.drop error.position with
    | [0xED, last] => 0xA0 ≤ last && last ≤ 0xBF
    | _ => false

/-- Whether decoding meets a fault before the document is looked at: the first chunk holds as
many bytes as a character may have or, where bytes are left over, the first piece ends with the
file. -/
def isMetFirst (bytes : List UInt8) (error : Text.Utf8Error) : Bool :=
  if isLeftOver bytes error then
    bytes.length ≤ pieceSize
  else
    error.position + 4 ≤ chunkSize

/-- Decodes a file.  What is left over is decoded on its own, and its position counts from
itself. -/
def decode (bytes : List UInt8) : Except FileError (List Char) :=
  match Text.decodeUtf8 bytes with
  | .ok text => .ok text
  | .error error =>
      if !isMetFirst bytes error then
        .error (.unordered (.encoding error))
      else if isLeftOver bytes error then
        .error (.encoding { error with position := 0 })
      else
        .error (.encoding error)

/-- Whether characters that are not allowed in a text are met before the document is looked
at, if there are any. -/
def isChecked (text : List Char) : Bool :=
  text.all Yaml.isAllowed || !(text.take pieceSize).all Yaml.isAllowed

def valueOfBytes (bytes : List UInt8) : Except FileError Value := do
  let text ← decode bytes
  if isChecked text then
    (Yaml.readDocument text).mapError .yaml
  else
    .error (.unordered (.yaml .malformed))

def ofBytes (bytes : List UInt8) : Outcome Notice FileError (List ExportedType) :=
  (Outcome.ofExcept (valueOfBytes bytes)).bind fun document =>
    ((readDocument document).mapError .content).bind fun types =>
      ⟨[.loaded types.length], .ok types⟩

end ApiDocs.Metadata
