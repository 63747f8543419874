import ApiDocs.Text.Blank
import ApiDocs.Text.Digit

namespace ApiDocs.Decimal

/-! Integers in decimal digits of any script. -/

inductive IntegerFault where
  | malformed
  | tooLong (digits : Nat)
  deriving DecidableEq, Repr

def maxDigits : Nat := 4300

/-- The digits of a literal.  A single underscore may stand between two digits;
`inside` says that a digit was read just before. -/
def digits? (inside : Bool) : List Char → Option (List Nat)
  | [] => if inside then some [] else none
  | c :: rest =>
      match Text.digitValue? c with
      | some value => (digits? true rest).map (value :: ·)
      | none => if c = '_' && inside then digits? false rest else none

def ofDigits (digits : List Nat) : Nat :=
  digits.foldl (fun value digit => 10 * value + digit) 0

def natural (cs : List Char) : Except IntegerFault Nat :=
  match digits? false cs with
  | none => .error .malformed
  | some digits =>
      if maxDigits < digits.length then
        .error (.tooLong digits.length)
      else
        .ok (ofDigits digits)

def integerChars : List Char → Except IntegerFault Int
  | '-' :: rest => (natural rest).map fun value => -(value : Int)
  | '+' :: rest => (natural rest).map Int.ofNat
  | cs => (natural cs).map Int.ofNat

/-- The blanks that may surround a literal: those of ASCII and every blank
beyond it. -/
def isPadding (c : Char) : Bool :=
  Text.isBlank c && !(0x1C ≤ c.toNat && c.toNat ≤ 0x1F)

def integer (text : String) : Except IntegerFault Int :=
  integerChars ((text.toList.dropWhile isPadding).reverse.dropWhile isPadding).reverse

end ApiDocs.Decimal
