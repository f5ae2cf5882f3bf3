import WifiArbiter.Text.Numeral

/-!
# Shortest decimals

The shortest decimal that reads back as a given binary64 number. All is exact
arithmetic on natural numbers: a finite number is a count of the least positive
one, 2⁻¹⁰⁷⁴, and a decimal reads back as it exactly when it lies between the
halfway points to the two neighbours. The halfway points themselves go to the
number whose significand is even.

Among decimals of the same length the nearest is taken, and of two equally near
the greater.

Results:
* `Magnitude.readsBack_of_nearest?`: a decimal that the search finds on a grid
  reads back.
-/

namespace WifiArbiter

/-- A decimal: `digits * 10 ^ exponent`. -/
structure Decimal where
  digits : Nat
  exponent : Int
deriving DecidableEq

/-- A finite number without its sign, and its distance from its neighbours. -/
structure Magnitude where
  /-- The number, counted in 2⁻¹⁰⁷⁴. -/
  units : Nat
  /-- The distance to the neighbour above, counted likewise. -/
  gap : Nat
  /-- The neighbour below is only half as far away as the one above. -/
  narrow : Bool

namespace Magnitude

/-- The magnitude of a finite number, from its bits. -/
def ofBits (bits : UInt64) : Magnitude :=
  let exponent := ((bits >>> 52) &&& 0x7FF).toNat
  let fraction := (bits &&& 0xFFFFFFFFFFFFF).toNat
  if exponent = 0 then { units := fraction, gap := 1, narrow := false }
  else
    { units := (1 <<< 52 + fraction) <<< (exponent - 1)
      gap := 1 <<< (exponent - 1)
      narrow := fraction = 0 ∧ 1 < exponent }

/-- Whether the significand is even. -/
def isEven (x : Magnitude) : Bool :=
  x.units / x.gap % 2 = 0

/-- The halfway point to the neighbour below, counted in 2⁻¹⁰⁷⁶. -/
def lower (x : Magnitude) : Nat :=
  if x.narrow then 4 * x.units - x.gap else 4 * x.units - 2 * x.gap

/-- The halfway point to the neighbour above, counted in 2⁻¹⁰⁷⁶. -/
def upper (x : Magnitude) : Nat :=
  4 * x.units + 2 * x.gap

/-- How many units make one. -/
def unitsPerOne : Nat := 1 <<< 1074

/-- The denominator and the numerator of a power of ten. -/
def powerOfTen (exponent : Int) : Nat × Nat :=
  (Nat.pow 10 (-exponent).toNat, Nat.pow 10 exponent.toNat)

/-- Whether a decimal reads back as the number. -/
def readsBack (x : Magnitude) (d : Decimal) : Bool :=
  let (den, num) := powerOfTen d.exponent
  let scaled := d.digits * num * (4 * unitsPerOne)
  if x.isEven then x.lower * den ≤ scaled ∧ scaled ≤ x.upper * den
  else x.lower * den < scaled ∧ scaled < x.upper * den

/-- The number divided by a power of ten, rounded down. -/
def quotient (x : Magnitude) (exponent : Int) : Nat :=
  let (den, num) := powerOfTen exponent
  x.units * den / (num * unitsPerOne)

/-- Whether the number is nearer to `low` than to `low + 1` powers of ten. -/
def nearerBelow (x : Magnitude) (low : Nat) (exponent : Int) : Bool :=
  let (den, num) := powerOfTen exponent
  2 * x.units * den < (2 * low + 1) * num * unitsPerOne

/-- The nearest decimal with a given exponent, if any with it reads back. -/
def nearest? (x : Magnitude) (exponent : Int) : Option Decimal :=
  let low : Decimal := ⟨x.quotient exponent, exponent⟩
  let high : Decimal := ⟨x.quotient exponent + 1, exponent⟩
  if x.readsBack low ∧ (x.nearerBelow low.digits exponent ∨ ¬ x.readsBack high) then some low
  else if x.readsBack high then some high
  else none

/-- The exponent of the least power of ten above a positive number. -/
def scale (x : Magnitude) : Int :=
  (Text.natural (x.quotient (-324))).length - 324

/-- The decimal expansion to its end. -/
def exact (x : Magnitude) : Decimal :=
  ⟨x.units * Nat.pow 5 1074, -1074⟩

/-- The shortest decimal that reads back as a positive number. Seventeen digits
are enough for any; the expansion to its end stands for the case beyond them. -/
def shortest (x : Magnitude) : Decimal :=
  ((List.range 17).findSome? fun n : Nat => x.nearest? (x.scale - n - 1)).getD x.exact

/-- What is found on a grid reads back. -/
theorem readsBack_of_nearest? {x : Magnitude} {e : Int} {d : Decimal}
    (h : x.nearest? e = some d) : x.readsBack d = true := by
  unfold nearest? at h
  dsimp only at h
  split at h
  · rename_i hl; cases h; exact hl.1
  · split at h
    · rename_i hh; cases h; exact hh
    · cases h

end Magnitude

end WifiArbiter
