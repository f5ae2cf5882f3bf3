/-!
# Characters of ASCII

Only letters of ASCII have a case here, all other characters are their own lower and
upper case. So what does not depend on the case of a character is checked for ASCII, code
point by code point.

Results:
* `forall_ascii`: what holds of the code points below 128 holds of the characters of ASCII.
* `apply_toLower`, `apply_toUpper`: what is the same for the characters of ASCII in either
  case is so for all.
-/

namespace WifiArbiter.Text

variable {α : Type} {c : Char}

/-- What holds of the characters of ASCII, each checked by its code point. -/
theorem forall_ascii {P : Char → Prop} (h : ∀ k < 128, P (Char.ofNat k)) (hc : c.toNat < 128) :
    P c := by
  have hp := h c.toNat hc
  rwa [Char.ofNat_toNat] at hp

theorem toLower_eq_self (hc : 128 ≤ c.toNat) : c.toLower = c := by
  have hz : ¬ c.val ≤ 'Z'.val := fun h => absurd (Nat.le_trans hc h) (by decide)
  exact dif_neg fun h => hz h.2

theorem toUpper_eq_self (hc : 128 ≤ c.toNat) : c.toUpper = c := by
  have hz : ¬ c.val ≤ 'z'.val := fun h => absurd (Nat.le_trans hc h) (by decide)
  exact dif_neg fun h => hz h.2

theorem apply_toLower {f : Char → α}
    (hascii : ∀ k < 128, f (Char.ofNat k).toLower = f (Char.ofNat k)) (c : Char) :
    f c.toLower = f c := by
  rcases Nat.lt_or_ge c.toNat 128 with hc | hc
  · exact forall_ascii (P := fun c => f c.toLower = f c) hascii hc
  · rw [toLower_eq_self hc]

theorem apply_toUpper {f : Char → α}
    (hascii : ∀ k < 128, f (Char.ofNat k).toUpper = f (Char.ofNat k)) (c : Char) :
    f c.toUpper = f c := by
  rcases Nat.lt_or_ge c.toNat 128 with hc | hc
  · exact forall_ascii (P := fun c => f c.toUpper = f c) hascii hc
  · rw [toUpper_eq_self hc]

end WifiArbiter.Text
