/-!
# Hexadecimal octets

Octets written as two hexadecimal digits, and read from them in either letter
case. The reader is told how many octets it is to deliver, and refuses a text of
any other length.

Results:
* `Hex.decode?_encode`: what is written reads back.
* `Hex.value?_eq_some_iff`: the digits are `0`–`9`, `a`–`f` and `A`–`F`, with
  their usual values.
-/

namespace WifiArbiter.Hex

/-- The lower-case digit of a value below sixteen. -/
def digit (n : Nat) : Char :=
  if n < 10 then Char.ofNat (48 + n) else Char.ofNat (87 + n)

/-- The value of a hexadecimal digit in either letter case. -/
def value? (c : Char) : Option Nat :=
  if '0' ≤ c ∧ c ≤ '9' then some (c.toNat - 48)
  else if 'a' ≤ c ∧ c ≤ 'f' then some (c.toNat - 87)
  else if 'A' ≤ c ∧ c ≤ 'F' then some (c.toNat - 55)
  else none

/-- An octet as two lower-case digits. -/
def encodeOctet (b : UInt8) : List Char :=
  [digit (b.toNat / 16), digit (b.toNat % 16)]

/-- Octets as lower-case digits, two for each. -/
def encode (bs : List UInt8) : List Char :=
  bs.flatMap encodeOctet

/-- Reads exactly `width` octets from a text of twice as many digits. -/
def decode? : (width : Nat) → List Char → Option (List UInt8)
  | 0, [] => some []
  | width + 1, hi :: lo :: rest => do
    let h ← value? hi
    let l ← value? lo
    let bs ← decode? width rest
    return UInt8.ofNat (16 * h + l) :: bs
  | _, _ => none

/-! ## Digits -/

theorem value?_digit : ∀ {n : Nat}, n < 16 → value? (digit n) = some n := by
  have h : ∀ n < 16, value? (digit n) = some n := by decide
  exact fun {n} => h n

/-- The values of the three ranges of digits. -/
theorem value?_eq_some_iff {c : Char} {n : Nat} :
    value? c = some n ↔
      ('0' ≤ c ∧ c ≤ '9' ∧ n = c.toNat - 48) ∨ ('a' ≤ c ∧ c ≤ 'f' ∧ n = c.toNat - 87) ∨
        ('A' ≤ c ∧ c ≤ 'F' ∧ n = c.toNat - 55) := by
  have ha : ∀ d e : Char, d ≤ e ↔ d.toNat ≤ e.toNat := fun _ _ => Iff.rfl
  have h0 : '0'.toNat = 48 ∧ '9'.toNat = 57 ∧ 'a'.toNat = 97 ∧ 'f'.toNat = 102 ∧
    'A'.toNat = 65 ∧ 'F'.toNat = 70 := by decide
  simp only [value?, ha]
  split
  · rw [Option.some.injEq]; omega
  · split
    · rw [Option.some.injEq]; omega
    · split
      · rw [Option.some.injEq]; omega
      · simp only [reduceCtorEq, false_iff]; omega

theorem value?_lt {c : Char} {n : Nat} (h : value? c = some n) : n < 16 := by
  have ha : ∀ d e : Char, d ≤ e ↔ d.toNat ≤ e.toNat := fun _ _ => Iff.rfl
  have h0 : '0'.toNat = 48 ∧ '9'.toNat = 57 ∧ 'a'.toNat = 97 ∧ 'f'.toNat = 102 ∧
    'A'.toNat = 65 ∧ 'F'.toNat = 70 := by decide
  simp only [value?_eq_some_iff, ha] at h
  omega

/-! ## Octets -/

/-- Reading back what was written gives the octets that were written. -/
theorem decode?_encode (bs : List UInt8) : decode? bs.length (encode bs) = some bs := by
  induction bs with
  | nil => rfl
  | cons b bs ih =>
    have hb := b.toNat_lt
    have hi : value? (digit (b.toNat / 16)) = some (b.toNat / 16) := value?_digit (by omega)
    have lo : value? (digit (b.toNat % 16)) = some (b.toNat % 16) := value?_digit (by omega)
    have e : 16 * (b.toNat / 16) + b.toNat % 16 = b.toNat := by omega
    rw [encode, List.flatMap_cons, ← encode, encodeOctet, List.length_cons]
    simp only [List.cons_append, List.nil_append, decode?, hi, lo, ih, e, Option.bind_eq_bind,
      Option.bind_some, UInt8.ofNat_toNat, Option.pure_def]

end WifiArbiter.Hex
