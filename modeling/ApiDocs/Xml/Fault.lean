namespace ApiDocs.Xml

/-! What is wrong with documents, and how messages put it. -/

inductive Cause where
  | syntaxError
  | noElement
  | invalidToken
  | unclosedToken
  | partialCharacter
  | mismatchedTag
  | duplicateAttribute
  | junkAfterDocument
  | illegalParameterReference
  | undefinedEntity
  | recursiveEntity
  | asynchronousEntity
  | invalidCharacterNumber
  | binaryEntity
  | externalEntityInAttribute
  | misplacedDeclaration
  | incorrectEncoding
  | unknownEncoding
  | unclosedCharacterData
  | malformedDeclaration
  | illegalPublicId
  deriving DecidableEq, Repr

namespace Cause

def message : Cause → String
  | syntaxError => "syntax error"
  | noElement => "no element found"
  | invalidToken => "not well-formed (invalid token)"
  | unclosedToken => "unclosed token"
  | partialCharacter => "partial character"
  | mismatchedTag => "mismatched tag"
  | duplicateAttribute => "duplicate attribute"
  | junkAfterDocument => "junk after document element"
  | illegalParameterReference => "illegal parameter entity reference"
  | undefinedEntity => "undefined entity"
  | recursiveEntity => "recursive entity reference"
  | asynchronousEntity => "asynchronous entity"
  | invalidCharacterNumber => "reference to invalid character number"
  | binaryEntity => "reference to binary entity"
  | externalEntityInAttribute => "reference to external entity in attribute"
  | misplacedDeclaration => "XML or text declaration not at start of entity"
  | incorrectEncoding => "encoding specified in XML declaration is incorrect"
  | unknownEncoding => "unknown encoding"
  | unclosedCharacterData => "unclosed CDATA section"
  | malformedDeclaration => "XML declaration not well-formed"
  | illegalPublicId => "illegal character(s) in public id"

end Cause

structure Fault where
  cause : Cause
  line : Nat
  deriving DecidableEq, Repr

/-- Why the bytes of an encoding cannot be told apart one by one. -/
inductive Refusal where
  | multiByte
  | failing (reason : String)
  | beyondAscii
  deriving DecidableEq, Repr

def Refusal.message (name : String) : Refusal → String
  | multiByte => "multi-byte encodings are not supported"
  | failing reason => s!"decoding with '{name}' codec failed (UnicodeError: {reason})"
  | beyondAscii =>
      "'ascii' codec can't decode byte 0x80 in position 82: ordinal not in range(128)"

/-- Why a document could not be read: it is not well formed, or nothing can be read in the
encoding that it names. -/
inductive Failure where
  | malformed (fault : Fault)
  | unheardEncoding (name : String)
  | binaryEncoding (name : String)
  | unreadableEncoding (name : String) (refusal : Refusal)
  deriving DecidableEq, Repr

namespace Failure

def message : Failure → String
  | malformed fault =>
      s!"invalid documentation XML in line {fault.line}: {fault.cause.message}"
  | unheardEncoding name => s!"unknown encoding: {name}"
  | binaryEncoding name =>
      s!"'{name}' is not a text encoding; use codecs.decode() to handle arbitrary codecs"
  | unreadableEncoding name refusal => refusal.message name

/-- Whether it is the lookup of an encoding that failed, which no part of the program knows. -/
def isUnforeseen : Failure → Bool
  | unheardEncoding _ => true
  | binaryEncoding _ => true
  | _ => false

end Failure

end ApiDocs.Xml
