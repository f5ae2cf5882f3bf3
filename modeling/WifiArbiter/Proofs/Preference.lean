import WifiArbiter.Proofs.LiveChoice

/-!
# Preference

Which of two judgments is better goes by their values alone, and values compare as floating-point
numbers do. Whatever the values, this is a strict order, in which NaN is on its own. Among the
judgments of candidates and the judgment on nothing it is a strict weak order: those of which neither
is better are those of equal value, the judgment on nothing is the bottom, and no other judgment is.
For this the values of candidates have to be finite, and that is all that is asked of them.

Results:
* `Judgment.isBetter_isStrictOrder`: no judgment is better than itself, and what is better than a
  better one is better.
* `Judgment.isBetter_isStrictWeakOrder`: where no value is NaN, neither being better is transitive.
* `Judgment.not_isBetter_iff_beq`: and it is to have equal values.
* `Judgment.IsProper.eq_sentinel`: only the judgment on nothing is the bottom.
* `Judgment.isBetter_orders`: all together.
-/

namespace WifiArbiter

namespace Judgment

/-- The judgment is one of a candidate. -/
def IsOnCandidate (j : Judgment) : Prop :=
  ∃ value err c, ofCandidate value err c = .ok j

/-- The judgment is one of a candidate, or the one on nothing. -/
def IsProper (j : Judgment) : Prop :=
  j.IsOnCandidate ∨ j = sentinel

variable {i j : Judgment}

theorem IsOnCandidate.value_finite (h : j.IsOnCandidate) : j.value.isFinite = true := by
  obtain ⟨value, err, c, hj⟩ := h
  obtain ⟨hallowed, rfl⟩ := ofCandidate_eq_ok_iff.mp hj
  exact hallowed.value_finite

/-! ## Any judgments -/

theorem rank_lt_of_isBetter (h : i.isBetter j = true) : rank j.value < rank i.value :=
  (isBetter_iff.mp h).2

/-- Better is what ranks higher, where the value it is compared with is not NaN. -/
theorem isBetter_iff_rank_lt (hj : rank j.value ≠ ⊥) :
    i.isBetter j = true ↔ rank j.value < rank i.value :=
  isBetter_iff.trans (and_iff_right hj)

/-- Whatever the values, being better is a strict order. -/
theorem isBetter_isStrictOrder :
    IsStrictOrder Judgment fun i j => i.isBetter j = true where
  irrefl _ h := lt_irrefl _ (rank_lt_of_isBetter h)
  trans i j k hij hjk := by
    have hlt : rank k.value < rank i.value :=
      (rank_lt_of_isBetter hjk).trans (rank_lt_of_isBetter hij)
    exact isBetter_iff.mpr ⟨(isBetter_iff.mp hjk).1, hlt⟩

theorem isBetter_asymm (h : i.isBetter j = true) : j.isBetter i = false := by
  rw [Bool.eq_false_iff]
  intro hji
  exact lt_asymm (rank_lt_of_isBetter h) (rank_lt_of_isBetter hji)

/-- A judgment of NaN is not better than any. -/
theorem isBetter_of_isNaN (h : i.value.isNaN = true) (j : Judgment) : i.isBetter j = false := by
  rw [Bool.eq_false_iff]
  intro hij
  have hlt := rank_lt_of_isBetter hij
  rw [isNaN_iff_rank.mp h] at hlt
  exact not_lt_bot hlt

/-- No judgment is better than one of NaN. -/
theorem isBetter_right_of_isNaN (h : i.value.isNaN = true) (j : Judgment) :
    j.isBetter i = false := by
  rw [Bool.eq_false_iff]
  intro hji
  exact (isBetter_iff.mp hji).1 (isNaN_iff_rank.mp h)

/-- The judgment on nothing is not better than any. -/
theorem sentinel_isBetter (j : Judgment) : sentinel.isBetter j = false := by
  rw [Bool.eq_false_iff]
  intro hj
  obtain ⟨hrank, hlt⟩ := isBetter_iff.mp hj
  rw [rank_sentinel] at hlt
  exact hlt.not_ge (rank_negInf_le hrank)

/-! ## Proper judgments -/

theorem IsOnCandidate.isBetter_sentinel (h : j.IsOnCandidate) : j.isBetter sentinel = true := by
  rw [isBetter_iff_rank_lt rank_sentinel_ne_bot, rank_sentinel]
  exact negInf_lt_rank h.value_finite

/-- The value of a proper judgment is not NaN. -/
theorem IsProper.rank_ne_bot (h : j.IsProper) : rank j.value ≠ ⊥ := by
  rcases h with h | rfl
  · exact rank_ne_bot_of_isFinite h.value_finite
  · exact rank_sentinel_ne_bot

/-- Of proper judgments those of equal value are not better than each other, and no others. -/
theorem not_isBetter_iff_beq (hi : i.IsProper) (hj : j.IsProper) :
    i.isBetter j = false ∧ j.isBetter i = false ↔ (i.value == j.value) = true := by
  rw [Bool.eq_false_iff, Bool.eq_false_iff, ne_eq, ne_eq, isBetter_iff_rank_lt hj.rank_ne_bot,
    isBetter_iff_rank_lt hi.rank_ne_bot, not_lt, not_lt, beq_iff_rank,
    and_iff_right hi.rank_ne_bot]
  exact le_antisymm_iff.symm

/-- Proper judgments are ordered as their ranks are. -/
theorem isBetter_isStrictWeakOrder :
    IsStrictWeakOrder {j : Judgment // j.IsProper} fun i j => i.1.isBetter j.1 = true := by
  have hrank : (fun i j : {j : Judgment // j.IsProper} => i.1.isBetter j.1 = true) =
      Order.Preimage (fun i : {j : Judgment // j.IsProper} => rank i.1.value) (· > ·) := by
    funext i j
    exact propext (isBetter_iff_rank_lt j.2.rank_ne_bot)
  have hgt : IsStrictWeakOrder (WithBot Rank) (· > ·) := isStrictWeakOrder_of_isOrderConnected
  rw [hrank]
  infer_instance

/-- A proper judgment that is not better than any other is the one on nothing. -/
theorem IsProper.eq_sentinel (h : j.IsProper) (hj : ∀ i, i.IsProper → j.isBetter i = false) :
    j = sentinel := by
  rcases h with h | h
  · have hnot := hj sentinel (.inr rfl)
    rw [h.isBetter_sentinel] at hnot
    cases hnot
  · exact h

/-! ## All together -/

/-- A candidate can be judged just with a finite value and a finite error above zero. Among the
judgments of candidates and the judgment on nothing, being better is a strict weak order, in which
those of equal value rank alike; the judgment on nothing is not better than any, every judgment of a
candidate is better, even one of the least finite value, and of no other judgment can the former be
said. With any values at all it is still a strict order, and NaN is not better than anything, nor is
anything better than NaN. -/
theorem isBetter_orders :
    (∀ value err c j, ofCandidate value err c = .ok j ↔
      (value.isFinite ∧ err.isFinite ∧ 0 < err) ∧ j = ⟨value, err, some c.slot⟩) ∧
    IsStrictWeakOrder {j : Judgment // j.IsProper} (fun i j => i.1.isBetter j.1) ∧
    (∀ i j : Judgment, i.IsProper → j.IsProper →
      (i.isBetter j = false ∧ j.isBetter i = false ↔ i.value == j.value)) ∧
    Float.ofBits 0 == Float.ofBits 0x8000000000000000 ∧
    ((∀ j, sentinel.isBetter j = false) ∧
      (∀ j : Judgment, j.IsOnCandidate → j.isBetter sentinel) ∧
      ∀ j : Judgment, j.IsProper → (∀ i, i.IsProper → j.isBetter i = false) → j = sentinel) ∧
    (leastFinite.isFinite ∧ (∀ x, x.isFinite → leastFinite ≤ x) ∧
      ∀ err c j, ofCandidate leastFinite err c = .ok j → j.isBetter sentinel) ∧
    IsStrictOrder Judgment (fun i j => i.isBetter j) ∧
    (∀ i j : Judgment, i.isBetter j → j.isBetter i = false) ∧
    ∀ i j : Judgment, i.value.isNaN → i.isBetter j = false ∧ j.isBetter i = false := by
  refine ⟨fun value err c j => ?_, isBetter_isStrictWeakOrder,
    fun _ _ => not_isBetter_iff_beq, by decide,
    ⟨sentinel_isBetter, fun _ h => h.isBetter_sentinel, fun _ h => h.eq_sentinel⟩,
    ⟨by decide, fun _ h => leastFinite_le h, fun err c j h => ?_⟩, isBetter_isStrictOrder,
    fun _ _ => isBetter_asymm,
    fun i j h => ⟨isBetter_of_isNaN h j, isBetter_right_of_isNaN h j⟩⟩
  · have hallows : Allows value err ↔ value.isFinite ∧ err.isFinite ∧ 0 < err :=
      ⟨fun h => ⟨h.value_finite, h.err_finite, h.err_pos⟩, fun ⟨hv, he, hpos⟩ => ⟨hv, he, hpos⟩⟩
    rw [ofCandidate_eq_ok_iff, hallows]
  · exact IsOnCandidate.isBetter_sentinel ⟨leastFinite, err, c, h⟩

/-- Judgments of the two zeros, of the least finite value, and of NaN. -/
theorem isBetter_orders_zeros :
    let c := Candidate.atHome 0 10
    let judge (bits : UInt64) : Judgment := ⟨Float.ofBits bits, Float.ofBits 1, some c.slot⟩
    let i := judge 0
    let j := judge 0x8000000000000000
    let least := judge 0xFFEFFFFFFFFFFFFF
    let odd := judge 0x7FF8000000000000
    i.IsProper ∧ j.IsProper ∧ i ≠ j ∧ (i.isBetter j = false ∧ j.isBetter i = false) ∧
    ofCandidate leastFinite least.err c = .ok least ∧ least.isBetter sentinel ∧
    i.isBetter least ∧ least.isBetter i = false ∧ least ≠ sentinel ∧
    odd.value.isNaN ∧ (odd.isBetter sentinel = false ∧ sentinel.isBetter odd = false) := by
  intro c judge i j least odd
  obtain ⟨-, -, htie, -, -, ⟨-, -, hleast⟩, -, hasymm, hnan⟩ := isBetter_orders
  have hi : i.IsProper := .inl ⟨i.value, i.err, c, by decide⟩
  have hj : j.IsProper := .inl ⟨j.value, j.err, c, by decide⟩
  have hl : ofCandidate leastFinite least.err c = .ok least := by decide
  have hgt : i.isBetter least = true := by decide
  exact ⟨hi, hj, by decide, (htie i j hi hj).mpr (by decide), hl, hleast _ _ _ hl, hgt,
    hasymm i least hgt, by decide, by decide, hnan odd sentinel (by decide)⟩

end Judgment

end WifiArbiter
