import Mathlib.Data.List.FinRange
import Mathlib.Data.List.Sort

/-!
# Reorderings

A sequence in another order is given by a permutation of its places. An order may be
changed and still keep certain items as they came: all those that are related in some
way.

Results:
* `reorder_perm`: a reordering has the same items.
* `KeepsOrder.filter_eq`, `filter_take_eq`: where the items of a kind keep their order,
  they are the same as before, and so are those before any one of them.
* `KeepsOrder.not_related_of_find?`: the first item of a kind is not related to the one
  that was first.
-/

namespace WifiArbiter

variable {α : Type}

/-- A sequence in another order. The permutation tells for each place where its item stood. -/
def reorder (xs : List α) (σ : Equiv.Perm (Fin xs.length)) : List α :=
  List.ofFn (xs.get ∘ σ)

/-- Items that are related stand in the order in which they stood. -/
def KeepsOrder (related : α → α → Prop) (xs : List α) (σ : Equiv.Perm (Fin xs.length)) : Prop :=
  ∀ i j, i < j → related (xs.get (σ i)) (xs.get (σ j)) → σ i < σ j

instance (related : α → α → Prop) [DecidableRel related] (xs : List α)
    (σ : Equiv.Perm (Fin xs.length)) : Decidable (KeepsOrder related xs σ) :=
  inferInstanceAs
    (Decidable (∀ i j, i < j → related (xs.get (σ i)) (xs.get (σ j)) → σ i < σ j))

section Reorder

variable (xs : List α) (σ : Equiv.Perm (Fin xs.length))

theorem getElem?_reorder (i : Fin xs.length) : (reorder xs σ)[(i : ℕ)]? = some (xs.get (σ i)) := by
  rw [reorder, List.getElem?_ofFn, dif_pos i.isLt]
  rfl

/-- A reordering has the same items. -/
theorem reorder_perm : (reorder xs σ).Perm xs := by
  have h := σ.ofFn_comp_perm xs.get
  rwa [List.ofFn_get] at h

theorem reorder_eq_map : reorder xs σ = ((List.finRange xs.length).map σ).map xs.get := by
  rw [reorder, List.ofFn_eq_map, List.map_map]

end Reorder

/-! ## The items of a kind -/

theorem take_finRange (n k : ℕ) :
    (List.finRange n).take k = (List.finRange n).filter fun i => i.val < k := by
  apply List.Pairwise.eq_of_mem_iff (r := (· < ·))
  · exact (List.pairwise_lt_finRange n).sublist (List.take_sublist k _)
  · exact (List.pairwise_lt_finRange n).sublist List.filter_sublist
  · intro i
    rw [List.mem_take_iff_getElem, List.mem_filter, decide_eq_true_iff]
    constructor
    · rintro ⟨j, hj, rfl⟩
      simp at hj ⊢
      omega
    · rintro ⟨-, hi⟩
      exact ⟨i, by simp; omega, by simp⟩

/-- The items of a kind before a place, by their places. -/
theorem filter_take_eq_map (p : α → Bool) (xs : List α) (k : ℕ) :
    (xs.take k).filter p =
      ((List.finRange xs.length).filter fun i => p (xs.get i) && i.val < k).map xs.get := by
  have h : xs.take k = ((List.finRange xs.length).take k).map xs.get := by
    rw [List.map_take, ← List.ofFn_eq_map, List.ofFn_get]
  rw [h, take_finRange, List.filter_map, List.filter_filter]
  rfl

/-- The first item of a kind stands at some place, and none of the kind stands before it. -/
theorem exists_of_find?_ofFn {n : ℕ} {f : Fin n → α} {p : α → Bool} {a : α}
    (h : (List.ofFn f).find? p = some a) : p a ∧ ∃ i, f i = a ∧ ∀ j < i, p (f j) = false := by
  obtain ⟨ha, i, hi, hget, hbefore⟩ := List.find?_eq_some_iff_getElem.mp h
  rw [List.length_ofFn] at hi
  rw [List.getElem_ofFn] at hget
  refine ⟨ha, ⟨i, hi⟩, hget, fun j hj => ?_⟩
  have hnot := hbefore j hj
  rwa [List.getElem_ofFn, Bool.not_eq_true_eq_eq_false] at hnot

namespace KeepsOrder

variable {related : α → α → Prop} {xs : List α} {σ : Equiv.Perm (Fin xs.length)} {p : α → Bool}

theorem lt_iff (h : KeepsOrder related xs σ) (hp : ∀ a b, p a → p b → related a b)
    {i j : Fin xs.length} (hi : p (xs.get (σ i))) (hj : p (xs.get (σ j))) : σ i < σ j ↔ i < j := by
  constructor
  · intro hlt
    by_contra hnot
    rcases (not_lt.mp hnot).lt_or_eq with hgt | heq
    · exact lt_asymm hlt (h j i hgt (hp _ _ hj hi))
    · rw [heq] at hlt
      exact lt_irrefl _ hlt
  · intro hlt
    exact h i j hlt (hp _ _ hi hj)

/-- The places of items of a kind, each moved to where its item stood. -/
theorem map_filter_finRange (h : KeepsOrder related xs σ) (hp : ∀ a b, p a → p b → related a b)
    (q : Fin xs.length → Bool) :
    ((List.finRange xs.length).filter fun i => p (xs.get (σ i)) && q (σ i)).map σ =
      (List.finRange xs.length).filter fun i => p (xs.get i) && q i := by
  apply List.Pairwise.eq_of_mem_iff (r := (· < ·))
  · rw [List.pairwise_map]
    refine ((List.pairwise_lt_finRange _).filter _).imp_of_mem fun {i j} hi hj hij => ?_
    simp only [List.mem_filter, Bool.and_eq_true] at hi hj
    exact (h.lt_iff hp hi.2.1 hj.2.1).mpr hij
  · exact (List.pairwise_lt_finRange _).filter _
  · intro j
    obtain ⟨i, rfl⟩ := σ.surjective j
    rw [List.mem_map_of_injective σ.injective]
    simp only [List.mem_filter, List.mem_finRange]

/-- Where all items of a kind keep their order, they are the same items as before. -/
theorem filter_eq (h : KeepsOrder related xs σ) (hp : ∀ a b, p a → p b → related a b) :
    (reorder xs σ).filter p = xs.filter p := by
  have hplaces := congrArg (List.map xs.get) (h.map_filter_finRange hp fun _ => true)
  simp only [Bool.and_true] at hplaces
  have hxs : xs.filter p = ((List.finRange xs.length).filter (p ∘ xs.get)).map xs.get := by
    rw [← List.filter_map, ← List.ofFn_eq_map, List.ofFn_get]
  rw [hxs, reorder_eq_map, List.filter_map, List.filter_map]
  exact hplaces

/-- And those before any one of them are the same. -/
theorem filter_take_eq (h : KeepsOrder related xs σ) (hp : ∀ a b, p a → p b → related a b)
    {i : Fin xs.length} (hi : p (xs.get (σ i))) :
    ((reorder xs σ).take i).filter p = (xs.take (σ i)).filter p := by
  have hbefore : ((List.finRange xs.length).filter fun j => p (xs.get (σ j)) && j.val < i.val) =
      (List.finRange xs.length).filter fun j => p (xs.get (σ j)) && σ j < σ i := by
    apply List.filter_congr
    intro j _
    by_cases hj : p (xs.get (σ j))
    · simp only [hj, h.lt_iff hp hj hi, Fin.lt_def]
    · simp only [hj, Bool.false_and]
  rw [filter_take_eq_map p xs]
  have hplaces := congrArg (List.map xs.get) (h.map_filter_finRange hp fun j => j < σ i)
  rw [← hbefore] at hplaces
  rw [reorder_eq_map, ← List.map_take, ← List.map_take, take_finRange, List.filter_map,
    List.filter_map, List.filter_filter]
  exact hplaces

/-- An item that is the first of a kind is not related to the one that was. -/
theorem not_related_of_find? (h : KeepsOrder related xs σ) (hirrefl : ∀ a, ¬ related a a) {a b : α}
    (ha : xs.find? p = some a) (hb : (reorder xs σ).find? p = some b) : ¬ related b a := by
  intro hrel
  obtain ⟨hpa, i, hi, hbefore⟩ := exists_of_find?_ofFn ((List.ofFn_get xs).symm ▸ ha)
  obtain ⟨hpb, j, hj, hbefore'⟩ := exists_of_find?_ofFn hb
  obtain ⟨k, rfl⟩ := σ.surjective i
  rcases lt_trichotomy k j with hlt | rfl | hgt
  · have hnot := hbefore' k hlt
    rw [Function.comp_apply, hi, hpa] at hnot
    cases hnot
  · rw [← hi, ← hj] at hrel
    exact hirrefl _ hrel
  · have hlt : σ j < σ k := h j k hgt (by rw [← hj, ← hi] at hrel; exact hrel)
    have hnot := hbefore (σ j) hlt
    rw [← Function.comp_apply (f := xs.get), hj, hpb] at hnot
    cases hnot

end KeepsOrder

end WifiArbiter
