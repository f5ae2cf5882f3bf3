import Mathlib.Algebra.Group.Nat.Defs
import Mathlib.Data.Int.ConditionallyCompleteOrder
import Mathlib.Data.Prod.Lex
import Mathlib.Order.ConditionallyCompleteLattice.Basic
import Mathlib.Order.Compare
import Mathlib.Order.WithBot

/-!
# Ranks of floating-point numbers

The comparisons of floating-point numbers are not those of an order: no comparison
with NaN holds, and the two zeros are equal and yet different. Each number has a
rank, though, in a linear order with NaN at the bottom, and compares as its rank
does. So the facts about orders come to bear on the values of judgments.

Results:
* `lt_iff_rank`, `le_iff_rank`, `beq_iff_rank`, `isNaN_iff_rank`: the comparisons in terms of
  ranks.
* `rank_negInf_le`, `negInf_lt_rank`: every number is at least −∞, and above it if finite.
* `leastFinite_le`: which of the finite numbers is the least.
-/

namespace WifiArbiter

open Float.Model (UnpackedFloat)
open Float.Model.UnpackedFloat (Sign)

/-! ## Ranks -/

/-- The ranks of the numbers, from −∞ to ∞. -/
abbrev Rank := ℤ ×ₗ ℤ ×ₗ ℤ

/-- The rank of a number of some kind. Among numbers of a kind the exponent counts most. -/
def Rank.of (kind exponent mantissa : ℤ) : Rank :=
  toLex (kind, toLex (exponent, mantissa))

/-- The rank of −∞. -/
def Rank.negInf : Rank := Rank.of (-2) 0 0

/-- The rank of an unpacked number. Both zeros have the same, and NaN has none. -/
def unpackedRank : UnpackedFloat → WithBot Rank
  | .notANumber => ⊥
  | .infinity .negative => Rank.negInf
  | .finite .negative m e _ => Rank.of (-1) (-e) (-m)
  | .zero _ => Rank.of 0 0 0
  | .finite .positive m e _ => Rank.of 1 e m
  | .infinity .positive => Rank.of 2 0 0

/-- The rank of a number. -/
def rank (x : Float) : WithBot Rank :=
  unpackedRank x.toModel.unpack

/-! ## Comparing -/

theorem Rank.compare_of (i j k l m n : ℤ) :
    compare (Rank.of i j k) (Rank.of l m n) =
      (compare i l).then ((compare j m).then (compare k n)) := rfl

theorem Rank.isLE_compare {i j : Rank} : (compare i j).isLE = true ↔ i ≤ j :=
  Ordering.isLE_iff_ne_gt.trans compare_le_iff_le

theorem compare_neg (i j : ℤ) : compare (-i) (-j) = (compare i j).swap := by
  have anti : StrictAnti fun i : ℤ => -i := fun _ _ => Int.neg_lt_neg
  rw [← cmp_eq_compare, ← cmp_eq_compare, cmp_swap]
  exact anti.cmp_map_eq i j

theorem compare_natCast (m n : ℕ) : compare (m : ℤ) n = compare m n := by
  have mono : StrictMono fun n : ℕ => (n : ℤ) := fun _ _ => Int.ofNat_lt.mpr
  rw [← cmp_eq_compare, ← cmp_eq_compare]
  exact mono.cmp_map_eq m n

/-- Unpacked numbers compare as their ranks do. -/
theorem compare_eq_of_rank {a b : UnpackedFloat} {i j : Rank} (ha : unpackedRank a = i)
    (hb : unpackedRank b = j) : a.compare b = compare i j := by
  rcases a with (_ | _) | _ | _ | ⟨_ | _, m, e, hm⟩ <;>
    rcases b with (_ | _) | _ | _ | ⟨_ | _, n, f, hn⟩ <;> cases ha <;> cases hb <;> try rfl
  -- What is left is two finite numbers of one sign; all others are told apart by their kinds.
  · change some ((compare e f).then (compare m n)).swap = some (compare (Rank.of ..) (Rank.of ..))
    rw [Rank.compare_of, compare_neg e f, compare_neg m n, compare_natCast, Ordering.swap_then]
    rfl
  · change some ((compare e f).then (compare m n)) = some (compare (Rank.of ..) (Rank.of ..))
    rw [Rank.compare_of, compare_natCast]
    rfl

/-- What has no rank compares with nothing. -/
theorem compare_eq_none_of_rank {a b : UnpackedFloat}
    (h : unpackedRank a = ⊥ ∨ unpackedRank b = ⊥) : a.compare b = none := by
  rcases a with (_ | _) | _ | _ | ⟨_ | _, m, e, hm⟩ <;>
    rcases b with (_ | _) | _ | _ | ⟨_ | _, n, f, hn⟩ <;>
    first | rfl | exact absurd h (by rintro (h | h) <;> cases h)

theorem compare_eq_some_iff {a b : UnpackedFloat} {o : Ordering} :
    a.compare b = some o ↔
      ∃ i j : Rank, unpackedRank a = i ∧ unpackedRank b = j ∧ compare i j = o := by
  constructor
  · intro h
    have hrank : unpackedRank a ≠ ⊥ ∧ unpackedRank b ≠ ⊥ := by
      by_contra hnot
      rw [compare_eq_none_of_rank (by tauto)] at h
      cases h
    obtain ⟨i, hi⟩ := WithBot.ne_bot_iff_exists.mp hrank.1
    obtain ⟨j, hj⟩ := WithBot.ne_bot_iff_exists.mp hrank.2
    rw [compare_eq_of_rank hi.symm hj.symm] at h
    exact ⟨i, j, hi.symm, hj.symm, Option.some.inj h⟩
  · rintro ⟨i, j, hi, hj, ho⟩
    rw [compare_eq_of_rank hi hj, ho]

/-- One number is less than another just when its rank is, and it is not NaN. -/
theorem lt_iff_rank {x y : Float} : x < y ↔ rank x ≠ ⊥ ∧ rank x < rank y := by
  have hlt : x < y ↔ x.toModel.unpack.compare y.toModel.unpack = some .lt := by
    change decide (x.toModel < y.toModel) = true ↔ _
    rw [decide_eq_true_iff]
    exact beq_iff_eq
  rw [hlt, compare_eq_some_iff]
  constructor
  · rintro ⟨i, j, hi, hj, h⟩
    rw [rank, rank, hi, hj]
    exact ⟨WithBot.coe_ne_bot, WithBot.coe_lt_coe.mpr (compare_lt_iff_lt.mp h)⟩
  · rintro ⟨hx, h⟩
    obtain ⟨i, hi⟩ := WithBot.ne_bot_iff_exists.mp hx
    obtain ⟨j, hj⟩ := WithBot.ne_bot_iff_exists.mp (ne_bot_of_gt h)
    rw [← hi, ← hj, WithBot.coe_lt_coe] at h
    exact ⟨i, j, hi.symm, hj.symm, compare_lt_iff_lt.mpr h⟩

/-- One number is at most another just when its rank is, and it is not NaN. -/
theorem le_iff_rank {x y : Float} : x ≤ y ↔ rank x ≠ ⊥ ∧ rank x ≤ rank y := by
  have hle : x ≤ y ↔ ∃ o, x.toModel.unpack.compare y.toModel.unpack = some o ∧ o.isLE = true := by
    change decide (x.toModel ≤ y.toModel) = true ↔ _
    rw [decide_eq_true_iff]
    exact Option.any_eq_true _ _
  simp only [hle, compare_eq_some_iff]
  constructor
  · rintro ⟨_, ⟨i, j, hi, hj, rfl⟩, h⟩
    rw [rank, rank, hi, hj]
    exact ⟨WithBot.coe_ne_bot, WithBot.coe_le_coe.mpr (Rank.isLE_compare.mp h)⟩
  · rintro ⟨hx, h⟩
    obtain ⟨i, hi⟩ := WithBot.ne_bot_iff_exists.mp hx
    obtain ⟨j, hj⟩ := WithBot.ne_bot_iff_exists.mp (ne_bot_of_le_ne_bot hx h)
    rw [← hi, ← hj, WithBot.coe_le_coe] at h
    exact ⟨_, ⟨i, j, hi.symm, hj.symm, rfl⟩, Rank.isLE_compare.mpr h⟩

/-- Among numbers that are not NaN, those that are not at most another are above it. -/
theorem lt_iff_not_le {x y : Float} (hx : rank x ≠ ⊥) (hy : rank y ≠ ⊥) : x < y ↔ ¬ y ≤ x := by
  rw [lt_iff_rank, le_iff_rank, ← not_lt]
  tauto

/-- Numbers are equal just when their ranks are, and they are not NaN. -/
theorem beq_iff_rank {x y : Float} : (x == y) = true ↔ rank x ≠ ⊥ ∧ rank x = rank y := by
  have heq : (x == y) = true ↔ x.toModel.unpack.compare y.toModel.unpack = some .eq := by
    change (x.toModel.unpack.compare y.toModel.unpack == some .eq) = true ↔ _
    exact beq_iff_eq
  rw [heq, compare_eq_some_iff]
  constructor
  · rintro ⟨i, j, hi, hj, h⟩
    rw [rank, rank, hi, hj]
    exact ⟨WithBot.coe_ne_bot, congrArg _ (compare_eq_iff_eq.mp h)⟩
  · rintro ⟨hx, h⟩
    obtain ⟨i, hi⟩ := WithBot.ne_bot_iff_exists.mp hx
    exact ⟨i, i, hi.symm, (hi.trans h).symm, compare_eq_iff_eq.mpr rfl⟩

theorem isNaN_iff_rank {x : Float} : x.isNaN = true ↔ rank x = ⊥ := by
  change x.toModel.unpack.isNaN = true ↔ unpackedRank x.toModel.unpack = ⊥
  rcases x.toModel.unpack with (_ | _) | _ | _ | ⟨_ | _, _, _, _⟩ <;>
    first | exact iff_of_true rfl rfl | exact iff_of_false Bool.false_ne_true WithBot.coe_ne_bot

/-! ## The least number -/

theorem Rank.of_lt_of {i l : ℤ} (h : i < l) (j k m n : ℤ) : Rank.of i j k < Rank.of l m n :=
  Prod.Lex.toLex_lt_toLex.mpr (.inl h)

theorem unpackedRank_negInf_le {a : UnpackedFloat} (h : unpackedRank a ≠ ⊥) :
    (Rank.negInf : WithBot Rank) ≤ unpackedRank a := by
  rcases a with (_ | _) | _ | _ | ⟨_ | _, m, e, hm⟩
  · exact le_rfl
  · exact WithBot.coe_le_coe.mpr (Rank.of_lt_of (by decide) ..).le
  · exact absurd rfl h
  · exact WithBot.coe_le_coe.mpr (Rank.of_lt_of (by decide) ..).le
  · exact WithBot.coe_le_coe.mpr (Rank.of_lt_of (by decide) ..).le
  · exact WithBot.coe_le_coe.mpr (Rank.of_lt_of (by decide) ..).le

/-- Every number is at least −∞. -/
theorem rank_negInf_le {x : Float} (h : rank x ≠ ⊥) : (Rank.negInf : WithBot Rank) ≤ rank x :=
  unpackedRank_negInf_le h

theorem negInf_lt_unpackedRank {a : UnpackedFloat} (h : a.isFinite = true) :
    (Rank.negInf : WithBot Rank) < unpackedRank a := by
  rcases a with (_ | _) | _ | _ | ⟨_ | _, m, e, hm⟩
  · cases h
  · cases h
  · cases h
  · exact WithBot.coe_lt_coe.mpr (Rank.of_lt_of (by decide) ..)
  · exact WithBot.coe_lt_coe.mpr (Rank.of_lt_of (by decide) ..)
  · exact WithBot.coe_lt_coe.mpr (Rank.of_lt_of (by decide) ..)

/-- Every finite number is above −∞. -/
theorem negInf_lt_rank {x : Float} (h : x.isFinite = true) :
    (Rank.negInf : WithBot Rank) < rank x :=
  negInf_lt_unpackedRank h

theorem rank_ne_bot_of_isFinite {x : Float} (h : x.isFinite = true) : rank x ≠ ⊥ :=
  ne_bot_of_gt (negInf_lt_rank h)

/-! ## The least finite number -/

/-- The least of the finite numbers, −(2⁵³ − 1) · 2⁹⁷¹. -/
def leastFinite : Float := Float.ofBits 0xFFEFFFFFFFFFFFFF

theorem rank_leastFinite : rank leastFinite = Rank.of (-1) (-971) (-(2 ^ 53 - 1)) := by decide

/-- The mantissa of a number has at most 53 bits, and its exponent is at most 971. -/
theorem bounds_of_unpack {b : BitVec Float.Model.Format.binary64.numBits} {s : Sign} {m : ℕ}
    {e : ℤ} {hm : 0 < m} (h : UnpackedFloat.unpack .binary64 b = .finite s m e hm) :
    m < 2 ^ 53 ∧ e ≤ 971 := by
  have hbias : (Float.Model.Format.binary64.exponentBias : ℤ) = 1023 := by decide
  have hmantissa : (UnpackedFloat.unpackMantissa b).toNat < 2 ^ 52 := BitVec.isLt _
  have hexponent : (UnpackedFloat.unpackExponent b).toNat < 2 ^ 11 := BitVec.isLt _
  unfold UnpackedFloat.unpack at h
  dsimp only at h
  by_cases hlast : UnpackedFloat.unpackExponent b = -1#_
  · -- such numbers are infinite, or NaN
    rw [if_pos hlast] at h
    by_cases hzero : UnpackedFloat.unpackMantissa b = 0#_
    · rw [if_pos hzero] at h
      cases h
    · rw [if_neg hzero] at h
      cases h
  · rw [if_neg hlast] at h
    by_cases hfirst : UnpackedFloat.unpackExponent b = 0#_
    · rw [if_pos hfirst] at h
      by_cases hzero : UnpackedFloat.unpackMantissa b = 0#_
      · rw [dif_pos hzero] at h
        cases h
      · rw [dif_neg hzero, UnpackedFloat.finite.injEq] at h
        obtain ⟨-, rfl, rfl⟩ := h
        rw [hfirst]
        exact ⟨by omega, by decide⟩
    · rw [if_neg hfirst, UnpackedFloat.finite.injEq] at h
      obtain ⟨-, rfl, rfl⟩ := h
      have hne : (UnpackedFloat.unpackExponent b).toNat ≠ 2047 := fun he =>
        hlast (BitVec.eq_of_toNat_eq he)
      exact ⟨(1#1 ++ UnpackedFloat.unpackMantissa b).isLt, by omega⟩

theorem Rank.of_le_of {j l k n : ℤ} (i : ℤ) (h : j ≤ l) (hk : k ≤ n) :
    Rank.of i j k ≤ Rank.of i l n := by
  rcases h.lt_or_eq with h | rfl
  · exact Prod.Lex.toLex_le_toLex.mpr (.inr ⟨rfl, Prod.Lex.toLex_le_toLex.mpr (.inl h)⟩)
  · exact Prod.Lex.toLex_le_toLex.mpr (.inr ⟨rfl, Prod.Lex.toLex_le_toLex.mpr (.inr ⟨rfl, hk⟩)⟩)

/-- Every finite number is at least the least of them. -/
theorem leastFinite_le {x : Float} (h : x.isFinite = true) : leastFinite ≤ x := by
  rw [le_iff_rank]
  refine ⟨by decide, ?_⟩
  rw [rank_leastFinite, rank]
  have hfinite : x.toModel.unpack.isFinite = true := h
  cases hx : x.toModel.unpack with
  | infinity s => rw [hx] at hfinite; cases hfinite
  | notANumber => rw [hx] at hfinite; cases hfinite
  | zero s => exact WithBot.coe_le_coe.mpr (Rank.of_lt_of (by decide) ..).le
  | finite s m e hm =>
    obtain ⟨hm, he⟩ := bounds_of_unpack hx
    cases s with
    | positive => exact WithBot.coe_le_coe.mpr (Rank.of_lt_of (by decide) ..).le
    | negative =>
      exact WithBot.coe_le_coe.mpr (Rank.of_le_of (-1) (by omega) (by omega))

end WifiArbiter
