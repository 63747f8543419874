namespace ApiDocs.Decimal

/-! The nearest floating-point number to a decimal. -/

/-- The nearest number to `digits * 10 ^ exponent`.  A decimal above every
finite number gives infinity, and one far below the least gives zero. -/
def nearest (digits : Nat) (exponent : Int) : Float :=
  let magnitude := (Nat.toDigits 10 digits).length + exponent
  if digits = 0 || magnitude < -330 then
    0.0
  else if magnitude > 310 then
    1.0 / 0.0
  else
    Float.ofScientific digits (exponent < 0) exponent.natAbs

/-- Reads digits with an optional fraction and an optional exponent; at least
one digit stands before the exponent.  Nothing may follow. -/
def unsigned? (cs : List Char) : Option Float :=
  let whole := cs.takeWhile Char.isDigit
  let afterWhole := cs.dropWhile Char.isDigit
  let (fraction, afterFraction) :=
    match afterWhole with
    | '.' :: rest => (rest.takeWhile Char.isDigit, rest.dropWhile Char.isDigit)
    | _ => ([], afterWhole)
  let digits := whole ++ fraction
  let number : Nat := digits.foldl (fun value c => 10 * value + (c.toNat - 48)) 0
  let scale : Int := -(fraction.length : Int)
  if digits.isEmpty then
    none
  else
    match afterFraction with
    | [] => some (nearest number scale)
    | e :: rest =>
        if e = 'e' || e = 'E' then
          let (negative, power) :=
            match rest with
            | '-' :: more => (true, more)
            | '+' :: more => (false, more)
            | _ => (false, rest)
          if power.isEmpty || !power.all Char.isDigit then
            none
          else
            let size : Nat := power.foldl (fun value c => 10 * value + (c.toNat - 48)) 0
            some (nearest number (if negative then scale - size else scale + size))
        else
          none

def float? : List Char → Option Float
  | '-' :: rest => (unsigned? rest).map (- ·)
  | '+' :: rest => unsigned? rest
  | cs => unsigned? cs

end ApiDocs.Decimal
