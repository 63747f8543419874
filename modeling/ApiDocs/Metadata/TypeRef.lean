namespace ApiDocs.Metadata

/-! References to types, and two ways to write them: for readers and in identifiers. -/

structure TypeRef where
  name : String
  arguments : List TypeRef
  deriving Repr, Inhabited

namespace TypeRef

def isSuffixChar (c : Char) : Bool :=
  c = '[' || c = ']' || c = ',' || c = '*' || c = '&'

def baseChars (cs : List Char) : List Char :=
  (cs.reverse.dropWhile isSuffixChar).reverse

def suffixChars (cs : List Char) : List Char :=
  (cs.reverse.takeWhile isSuffixChar).reverse

def dotNested (cs : List Char) : List Char :=
  cs.map fun c => if c = '+' then '.' else c

/-- A name up to the first backtick, behind which the number of its arguments
stands. -/
def dropArity (cs : List Char) : List Char :=
  cs.takeWhile (· != '\x60')

def base (name : String) : List Char :=
  dotNested (baseChars name.toList)

def keywords : List (String × String) := [
  ("System.SByte", "sbyte"), ("System.Byte", "byte"), ("System.Int16", "short"),
  ("System.UInt16", "ushort"), ("System.Int32", "int"), ("System.UInt32", "uint"),
  ("System.Int64", "long"), ("System.UInt64", "ulong"), ("System.Single", "float"),
  ("System.Double", "double"), ("System.Decimal", "decimal"),
  ("System.Boolean", "bool"), ("System.Char", "char"), ("System.String", "string"),
  ("System.Object", "object"), ("System.Void", "void")]

def keywordOr (base : List Char) : List Char :=
  match keywords.lookup (String.ofList base) with
  | some keyword => keyword.toList
  | none => base

/-- The suffix of a name in identifiers, where an at sign marks a reference. -/
def canonicalSuffix (name : String) : List Char :=
  (suffixChars name.toList).map fun c => if c = '&' then '@' else c

mutual

/-- The name of a type for readers: keywords for the types that have one, and the
arguments of generic types between entities for angle brackets. -/
def human : TypeRef → List Char
  | ⟨name, []⟩ => keywordOr (base name) ++ suffixChars name.toList
  | ⟨name, first :: rest⟩ =>
      dropArity (base name) ++ "&lt;".toList ++ human first ++ humanRest rest ++
        "&gt;".toList ++ suffixChars name.toList

def humanRest : List TypeRef → List Char
  | [] => []
  | ref :: rest => ", ".toList ++ human ref ++ humanRest rest

end

mutual

def canonical : TypeRef → List Char
  | ⟨name, []⟩ => base name ++ canonicalSuffix name
  | ⟨name, first :: rest⟩ =>
      dropArity (base name) ++ "\x7b".toList ++ canonical first ++ canonicalRest rest ++
        "\x7d".toList ++ canonicalSuffix name

def canonicalRest : List TypeRef → List Char
  | [] => []
  | ref :: rest => ',' :: (canonical ref ++ canonicalRest rest)

end

def humanName (ref : TypeRef) : String :=
  String.ofList ref.human

def canonicalName (ref : TypeRef) : String :=
  String.ofList ref.canonical

end TypeRef

end ApiDocs.Metadata
