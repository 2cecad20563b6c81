/-!
# Binary64 numbers and decimal text

A float of a JSON text is read from its digits in two rounded steps: the significand, made of as
many leading digits as fit 64 bits, and its product or quotient with a power of ten. It is
written as an exact decimal, so reading it back gives the same number whatever way of rounding
the reader has.
-/

namespace ConnectionPool.Binary64

/-- The power of ten, rounded to nearest; the exponent is at most 308. -/
def powerOfTen (exponent : Nat) : Float :=
  Float.ofScientific 1 false exponent

/-- Scale by a power of ten, in one rounded step when the exponent is at most 308 and by steps of
`1e308` below that. An overflow is `none`. -/
def scale (fuel : Nat) (value : Float) (exponent : Int) : Option Float :=
  if exponent.natAbs ≤ 308 then
    if exponent ≥ 0 then
      let scaled := value * powerOfTen exponent.natAbs
      if scaled.isInf then none else some scaled
    else some (value / powerOfTen exponent.natAbs)
  else if value == 0.0 then some value
  else if exponent ≥ 0 then none
  else
    match fuel with
    | 0 => some 0.0
    | fuel + 1 => scale fuel (value / powerOfTen 308) (exponent + 308)

/-- The bits of `significand * 10 ^ exponent` with a sign; `none` if it overflows. Two divisions
by `1e308` take every significand of 64 bits to zero. -/
def ofDecimal? (negative : Bool) (significand : UInt64) (exponent : Int) : Option UInt64 :=
  (scale 4 significand.toFloat exponent).map fun value =>
    (if negative then -value else value).toBits

/-- The sixteen lower-case hexadecimal digits of the bits. -/
def hexDigits (bits : UInt64) : String :=
  let digits := Nat.toDigits 16 bits.toNat
  String.ofList (List.replicate (16 - digits.length) '0' ++ digits)

/-- Divide by two while the number is even and the exponent of two is negative. -/
def reduce : Nat → Nat → Nat × Nat
  | mantissa, 0 => (mantissa, 0)
  | mantissa, exponent + 1 =>
      if mantissa % 2 = 0 then reduce (mantissa / 2) exponent else (mantissa, exponent + 1)

/-- An exact decimal text of the finite number with these bits. -/
def decimalText (bits : UInt64) : String :=
  let sign := if bits >>> 63 = 0 then "" else "-"
  let field := (bits >>> 52 &&& 0x7FF).toNat
  let fraction := (bits &&& 0xFFFFFFFFFFFFF).toNat
  let mantissa := if field = 0 then fraction else fraction + 0x10000000000000
  let shift := if field = 0 then 1 else field
  if mantissa = 0 then sign ++ "0.0"
  else if shift ≥ 1075 then sign ++ toString (mantissa <<< (shift - 1075)) ++ ".0"
  else
    let (odd, places) := reduce mantissa (1075 - shift)
    if places = 0 then sign ++ toString odd ++ ".0"
    else sign ++ toString (odd * Nat.pow 5 places) ++ "e-" ++ toString places

end ConnectionPool.Binary64
