/-!
# Decimal numerals

Integers written in base ten, with a minus sign before a negative one and no
leading zeros.

Results:
* `natural_injective`, `integer_injective`: different numbers have different
  numerals.
* `isDigit_of_mem_natural`: the numeral of a natural number holds digits only.
-/

namespace WifiArbiter.Text

/-- The digits of a natural number. -/
def natural (n : Nat) : List Char :=
  Nat.toDigits 10 n

/-- The numeral of an integer. -/
def integer (n : Int) : List Char :=
  if n < 0 then '-' :: natural n.natAbs else natural n.natAbs

theorem isDigit_of_mem_natural {n : Nat} {c : Char} (h : c ∈ natural n) : c.isDigit = true :=
  Nat.isDigit_of_mem_toDigits (by decide) (by decide) h

theorem natural_injective {m n : Nat} (h : natural m = natural n) : m = n := by
  have hm : Nat.ofDigitChars 10 (natural m) 0 = m := Nat.ofDigitChars_ten_toDigits
  have hn : Nat.ofDigitChars 10 (natural n) 0 = n := Nat.ofDigitChars_ten_toDigits
  rw [← hm, ← hn, h]

theorem integer_injective {m n : Int} (h : integer m = integer n) : m = n := by
  have sign : ∀ k l : Nat, '-' :: natural k ≠ natural l := fun k l e =>
    absurd (isDigit_of_mem_natural (e ▸ List.mem_cons_self : '-' ∈ natural l)) (by decide)
  unfold integer at h
  split at h <;> split at h
  · have := natural_injective (List.cons.inj h).2; omega
  · exact absurd h (sign _ _)
  · exact absurd h.symm (sign _ _)
  · have := natural_injective h; omega

end WifiArbiter.Text
