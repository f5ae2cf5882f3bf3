import WifiArbiter.Decimal.Shortest

/-!
# Positional decimals

Floating-point numbers as texts: the shortest digits that read back, written out
without an exponent at any size. A whole number has no point, and zero keeps its
sign.
-/

namespace WifiArbiter

namespace Decimal

/-- The digits behind the point, without the zeros at their end. -/
def fractionDigits (width n : Nat) : List Char :=
  (((Text.natural n).leftpad width '0').reverse.dropWhile (· == '0')).reverse

/-- A decimal without an exponent. -/
def positional (d : Decimal) : List Char :=
  if 0 ≤ d.exponent then Text.natural (d.digits * Nat.pow 10 d.exponent.toNat)
  else
    let width := (-d.exponent).toNat
    let whole := Text.natural (d.digits / Nat.pow 10 width)
    match fractionDigits width (d.digits % Nat.pow 10 width) with
    | [] => whole
    | fraction => whole ++ '.' :: fraction

/-- The text of a finite magnitude. -/
def magnitudeChars (x : Magnitude) : List Char :=
  if x.units = 0 then ['0'] else x.shortest.positional

/-- Whether the sign bit is set. -/
def isSigned (x : Float) : Bool :=
  x.toBits >>> 63 = 1

/-- The text of a floating-point number. -/
def text (x : Float) : String :=
  if x.isNaN then "NaN"
  else
    let magnitude :=
      if x.isInf then "inf" else String.ofList (magnitudeChars (.ofBits x.toBits))
    if isSigned x then "-" ++ magnitude else magnitude

end Decimal

end WifiArbiter
