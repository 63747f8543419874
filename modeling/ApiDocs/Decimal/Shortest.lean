namespace ApiDocs.Decimal

/-! The shortest decimal that reads back as a floating-point number, and its layout. -/

/-- A positive number `mantissa * 2 ^ exponent`.  `low` and `high` are the
distances in quarters of a unit to the ends of the interval that rounds to it. -/
structure Binary where
  mantissa : Nat
  exponent : Int
  low : Nat
  high : Nat
  deriving DecidableEq, Repr

namespace Binary

def ofBits (bits : Nat) : Binary :=
  let fraction : Nat := bits % Nat.pow 2 52
  let biased : Nat := bits / Nat.pow 2 52 % Nat.pow 2 11
  if biased = 0 then
    ⟨fraction, -1074, 2, 2⟩
  else
    ⟨Nat.pow 2 52 + fraction, (biased : Int) - 1075,
      if fraction = 0 && biased != 1 then 1 else 2, 2⟩

def compareAt (value : Binary) (digits : Nat) (scale : Int) (quarters : Nat) : Ordering :=
  let shift := value.exponent - 2
  compare
    (digits * Nat.pow 10 scale.toNat * Nat.pow 2 (-shift).toNat)
    (quarters * Nat.pow 2 shift.toNat * Nat.pow 10 (-scale).toNat)

/-- The decimal `digits * 10 ^ scale` rounds to the number.  The ends of the
interval do so when the mantissa is even. -/
def reads (value : Binary) (digits : Nat) (scale : Int) : Bool :=
  let center := 4 * value.mantissa
  let ends := value.mantissa % 2 == 0
  let above := value.compareAt digits scale (center - value.low)
  let below := value.compareAt digits scale (center + value.high)
  (above == .gt || (ends && above == .eq)) && (below == .lt || (ends && below == .eq))

def floorAt (value : Binary) (scale : Int) : Nat :=
  value.mantissa * Nat.pow 2 value.exponent.toNat * Nat.pow 10 (-scale).toNat /
    (Nat.pow 2 (-value.exponent).toNat * Nat.pow 10 scale.toNat)

/-- The number is below `10 ^ magnitude` and not below a tenth of it. -/
def magnitude (value : Binary) : Int :=
  ((Nat.toDigits 10 (value.floorAt (-400))).length : Int) - 400

/-- The decimal on a grid that reads back and is nearest; of two equally near
the even one. -/
def onGrid? (value : Binary) (scale : Int) : Option Nat :=
  let down := value.floorAt scale
  let up := down + 1
  match value.reads down scale, value.reads up scale with
  | false, false => none
  | true, false => some down
  | false, true => some up
  | true, true =>
      match value.compareAt (2 * down + 1) scale (8 * value.mantissa) with
      | .gt => some down
      | .lt => some up
      | .eq => some (if down % 2 = 0 then down else up)

/-- Tries grids of more and more digits; the second part is the grid's scale. -/
def search (value : Binary) (magnitude : Int) : Nat → Nat → Nat × Int
  | 0, count => (value.floorAt (magnitude - count), magnitude - count)
  | fuel + 1, count =>
      match value.onGrid? (magnitude - count) with
      | some digits => (digits, magnitude - count)
      | none => search value magnitude fuel (count + 1)

def shortest (value : Binary) : Nat × Int :=
  search value value.magnitude 17 1

end Binary

/-- How a number is laid out: positional notation ends below `10 ^ lowest` and
above `10 ^ highest`, and an exponent has at least `exponentDigits` digits. -/
structure Layout where
  lowest : Int
  highest : Int
  exponentDigits : Nat

def Layout.default : Layout := ⟨-4, 16, 2⟩

def padLeft (width : Nat) (cs : List Char) : List Char :=
  List.replicate (width - cs.length) '0' ++ cs

def Layout.write (layout : Layout) (digits : List Char) (point : Int) : List Char :=
  if layout.lowest < point && point ≤ layout.highest then
    if point ≤ 0 then
      '0' :: '.' :: (List.replicate (-point).toNat '0' ++ digits)
    else
      let whole := digits.take point.toNat
      let fraction := digits.drop point.toNat
      whole ++ List.replicate (point.toNat - whole.length) '0' ++
        '.' :: (if fraction.isEmpty then ['0'] else fraction)
  else
    let exponent := point - 1
    let sign := if exponent < 0 then '-' else '+'
    digits.take 1 ++ (if digits.length ≤ 1 then [] else '.' :: digits.drop 1) ++
      'e' :: sign :: padLeft layout.exponentDigits (Nat.toDigits 10 exponent.natAbs)

def dropTrailingZeros (digits : List Char) : List Char :=
  (digits.reverse.dropWhile (· == '0')).reverse

def floatChars (x : Float) : List Char :=
  let bits := x.toBits.toNat
  let sign := if bits / Nat.pow 2 63 = 1 then ['-'] else []
  let magnitude := bits % Nat.pow 2 63
  if magnitude = 0 then
    sign ++ ['0', '.', '0']
  else if magnitude / Nat.pow 2 52 = 2047 then
    if magnitude % Nat.pow 2 52 = 0 then sign ++ ['i', 'n', 'f'] else ['n', 'a', 'n']
  else
    let (digits, scale) := (Binary.ofBits magnitude).shortest
    let all := Nat.toDigits 10 digits
    sign ++ Layout.default.write (dropTrailingZeros all) (all.length + scale)

def floatText (x : Float) : String :=
  String.ofList (floatChars x)

end ApiDocs.Decimal
