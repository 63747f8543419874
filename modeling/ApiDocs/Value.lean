import ApiDocs.Calendar
import ApiDocs.Decimal.Shortest

namespace ApiDocs

/-! Values of data files of any kind. -/

/-- A value of a data file.  The entries of a map stand in the order of their first
appearance.  A collection that is part of itself is repeated to some depth, and is `endless`
below it. -/
inductive Value where
  | null
  | bool (value : Bool)
  | int (value : Int)
  | float (value : Float)
  | text (value : String)
  | bytes (value : List UInt8)
  | date (value : Date)
  | moment (value : Moment)
  | list (items : List Value)
  | pair (first second : Value)
  | map (entries : List (Value × Value))
  | set (items : List Value)
  | endless
  deriving Inhabited

namespace Value

def get? (entries : List (Value × Value)) (name : String) : Option Value :=
  (entries.find? fun (key, _) =>
    match key with
    | text value => value = name
    | _ => false).map Prod.snd

def integral? (x : Float) : Option Int :=
  if x.isNaN || x.isInf then
    none
  else
    let binary := Decimal.Binary.ofBits (x.abs.toBits.toNat)
    let size? : Option Nat :=
      if 0 ≤ binary.exponent then
        some (binary.mantissa * Nat.pow 2 binary.exponent.toNat)
      else
        let divisor := Nat.pow 2 binary.exponent.natAbs
        if binary.mantissa % divisor = 0 then some (binary.mantissa / divisor) else none
    size?.map fun size => if x < 0 then -(size : Int) else size

def asInteger? : Value → Option Int
  | bool value => some (if value then 1 else 0)
  | int value => some value
  | float value => integral? value
  | _ => none

/-- Whether two values are one key of a map.  Numbers of different kinds are one key
if they are equal, and truth values count as numbers. -/
def sameKey (left right : Value) : Bool :=
  match left.asInteger?, right.asInteger? with
  | some m, some n => m = n
  | none, none =>
      match left, right with
      | null, null => true
      | float x, float y => x == y
      | text a, text b => a = b
      | bytes a, bytes b => a = b
      | date a, date b => a = b
      | moment a, moment b => a.same b
      | _, _ => false
  | _, _ => false

def insert (entries : List (Value × Value)) (key value : Value) : List (Value × Value) :=
  if entries.any fun entry => entry.1.sameKey key then
    entries.map fun entry => if entry.1.sameKey key then (entry.1, value) else entry
  else
    entries ++ [(key, value)]

def isTruthy : Value → Bool
  | null => false
  | bool value => value
  | int value => value ≠ 0
  | float value => value != 0
  | text value => !value.isEmpty
  | bytes value => !value.isEmpty
  | date _ => true
  | moment _ => true
  | list items => !items.isEmpty
  | pair _ _ => true
  | map entries => !entries.isEmpty
  | set items => !items.isEmpty
  | endless => true

end Value

end ApiDocs
