import WifiArbiter.Proofs.Occupancy
import WifiArbiter.Proofs.Strictness

/-!
# Ascent

As long as a slot is occupied, its occupants come from one nominator, and each has a
better score than the one whose place it took. So none comes back: a candidate that
was replaced is not in the slot again before the slot has been empty, even if the same
access point is nominated again just as before, and it cannot be removed.

Results:
* `Step.ascends_after`: what one call does to the occupant of a slot.
* `Registry.StaysOccupied.iff_no_removal`: a slot stays occupied just when no candidate
  is removed from it.
* `Registry.StaysOccupied.ascends_run`: what a run does to the occupant of a slot.
* `Registry.ascent_run`: the occupants along a run, and what has become of those
  that were replaced.
-/

namespace WifiArbiter

/-! ## Ascending candidates -/

/-- The other candidate is the same, or a better one of the same nominator. -/
structure Candidate.Ascends (c d : Candidate) : Prop where
  nominator : d.nominator = c.nominator
  eq_or_lt : c = d ∨ c.score < d.score

namespace Candidate.Ascends

variable {c d e : Candidate}

theorem refl (c : Candidate) : c.Ascends c :=
  ⟨rfl, .inl rfl⟩

theorem score_le (h : c.Ascends d) : c.score ≤ d.score := by
  rcases h.eq_or_lt with rfl | hlt
  · exact Int32.le_refl _
  · exact Int32.le_of_lt hlt

theorem trans (h : c.Ascends d) (h' : d.Ascends e) : c.Ascends e := by
  refine ⟨h'.nominator.trans h.nominator, ?_⟩
  rcases h.eq_or_lt with rfl | hlt
  · exact h'.eq_or_lt
  · exact .inr (Int32.lt_of_lt_of_le hlt h'.score_le)

/-- There is no way back but to have stayed. -/
theorem antisymm (h : c.Ascends d) (h' : d.Ascends c) : c = d := by
  rcases h.eq_or_lt with heq | hlt
  · exact heq
  · exact absurd (Int32.lt_of_lt_of_le hlt h'.score_le) Int32.lt_irrefl

end Candidate.Ascends

namespace Step

variable {s : Step} {slot : Slot} {c : Candidate}

/-- A call that leaves a slot occupied leaves the occupant, or a better candidate of the same
nominator. -/
theorem ascends_after (hc : s.before.get? slot = some c) (h : s.after.get? slot ≠ none) :
    ∃ d, s.after.get? slot = some d ∧ c.Ascends d := by
  cases ho : s.outcome with
  | none => exact ⟨c, (get?_after_of_none ho slot).trans hc, .refl c⟩
  | some o =>
    rw [get?_after_of_outcome ho, hc] at h ⊢
    cases o with
    | addition d =>
      obtain ⟨_, _, _, hnone⟩ := Registry.outcome_eq_addition_iff.mp ho
      have hslot : slot ≠ d.slot := by
        rintro rfl
        rw [hc] at hnone
        cases hnone
      rw [Outcome.occupant, if_neg hslot]
      exact ⟨c, rfl, .refl c⟩
    | replacement d e =>
      obtain ⟨_, _, _, he, hi, hs⟩ := Registry.outcome_eq_replacement_iff.mp ho
      rw [Outcome.occupant]
      split_ifs with hslot
      · subst hslot
        rw [hc] at he
        cases he
        exact ⟨d, rfl, hi, .inr hs⟩
      · exact ⟨c, rfl, .refl c⟩
    | removal d =>
      rw [Outcome.occupant] at h ⊢
      split_ifs at h ⊢
      · exact absurd rfl h
      · exact ⟨c, rfl, .refl c⟩
    | rejection _ _ | fault _ => exact ⟨c, rfl, .refl c⟩

theorem isRemovalFrom_iff :
    s.isRemovalFrom slot = true ↔ ∃ d, s.outcome = some (.removal d) ∧ slot = d.slot := by
  obtain ⟨r, call⟩ := s
  simp only [outcome, Registry.outcome_eq_removal_iff]
  constructor
  · intro h
    cases call with
    | remove d? =>
      cases d? with
      | none => cases h
      | some d =>
        obtain ⟨hslot, hd⟩ := (Registry.isRemovalFrom_remove r d slot).mp h
        exact ⟨d, ⟨rfl, hd⟩, hslot⟩
    | nominate _ | clearFaults | setStrict _ | choose _ => cases h
  · rintro ⟨d, ⟨rfl, hd⟩, hslot⟩
    exact (Registry.isRemovalFrom_remove r d slot).mpr ⟨hslot, hd⟩

/-- An occupied slot is emptied by a removal from it, and by nothing else. -/
theorem get?_after_eq_none_iff (hc : s.before.get? slot ≠ none) :
    s.after.get? slot = none ↔ s.isRemovalFrom slot = true := by
  rw [isRemovalFrom_iff]
  cases ho : s.outcome with
  | none => simp [get?_after_of_none ho, hc]
  | some o =>
    rw [get?_after_of_outcome ho]
    cases o with
    | addition d | replacement d _ =>
      constructor
      · intro h
        rw [Outcome.occupant] at h
        split_ifs at h
        exact absurd h hc
      · rintro ⟨_, h, _⟩
        cases h
    | removal _ | rejection _ _ | fault _ => simp [Outcome.occupant, hc]

end Step

/-! ## Stretches of a run -/

namespace Registry

/-- The slot is occupied after any number of the calls. -/
def StaysOccupied (r : Registry) (slot : Slot) (calls : List Call) : Prop :=
  ∀ xs, xs <+: calls → (r.run xs).registry.get? slot ≠ none

namespace StaysOccupied

variable {r : Registry} {slot : Slot} {call : Call} {calls : List Call}

theorem nil_iff : r.StaysOccupied slot [] ↔ r.get? slot ≠ none := by
  constructor
  · intro h
    exact h [] List.prefix_rfl
  · intro h xs hxs
    rw [List.prefix_nil.mp hxs]
    exact h

theorem cons_iff : r.StaysOccupied slot (call :: calls) ↔
    r.get? slot ≠ none ∧ (r.perform call).registry.StaysOccupied slot calls := by
  constructor
  · intro h
    refine ⟨h [] List.nil_prefix, fun xs hxs => ?_⟩
    exact h (call :: xs) (List.cons_prefix_cons.mpr ⟨rfl, hxs⟩)
  · rintro ⟨hr, h⟩ xs hxs
    cases xs with
    | nil => exact hr
    | cons x xs =>
      obtain ⟨rfl, htail⟩ := List.cons_prefix_cons.mp hxs
      exact h xs htail

/-- A slot stays occupied just when no candidate is removed from it. -/
theorem iff_no_removal : r.StaysOccupied slot calls ↔
    r.get? slot ≠ none ∧ ∀ s ∈ r.steps calls, s.isRemovalFrom slot = false := by
  induction calls generalizing r with
  | nil => simp [nil_iff, steps]
  | cons call calls ih =>
    rw [cons_iff, ih, steps, List.forall_mem_cons]
    refine and_congr_right fun hr => and_congr_left fun _ => ?_
    rw [← Bool.not_eq_true, ← Step.get?_after_eq_none_iff (s := ⟨r, call⟩) hr]
    rfl

/-- The calls in two parts. -/
theorem append_right {xs ys : List Call} (h : r.StaysOccupied slot (xs ++ ys)) :
    (r.run xs).registry.StaysOccupied slot ys := by
  rintro zs ⟨ws, rfl⟩
  have hzs := h (xs ++ zs) ⟨ws, List.append_assoc ..⟩
  rwa [run_append] at hzs

theorem of_prefix {xs : List Call} (h : r.StaysOccupied slot calls) (hxs : xs <+: calls) :
    r.StaysOccupied slot xs :=
  fun ys hys => h ys (hys.trans hxs)

/-- As long as a slot is occupied, its occupants ascend. -/
theorem ascends_run {c : Candidate} (h : r.StaysOccupied slot calls) (hc : r.get? slot = some c) :
    ∃ d, (r.run calls).registry.get? slot = some d ∧ c.Ascends d := by
  induction calls generalizing r c with
  | nil => exact ⟨c, hc, .refl c⟩
  | cons call calls ih =>
    obtain ⟨-, hrest⟩ := cons_iff.mp h
    obtain ⟨d, hd, hcd⟩ :=
      Step.ascends_after (s := ⟨r, call⟩) hc (hrest [] List.nil_prefix)
    obtain ⟨e, he, hde⟩ := ih hrest hd
    exact ⟨e, he, hcd.trans hde⟩

/-- The occupants at two points of a stretch. -/
theorem ascends_of_prefix {xs ys : List Call} {c : Candidate} (h : r.StaysOccupied slot calls)
    (hxs : xs <+: ys) (hys : ys <+: calls) (hc : (r.run xs).registry.get? slot = some c) :
    ∃ d, (r.run ys).registry.get? slot = some d ∧ c.Ascends d := by
  obtain ⟨zs, rfl⟩ := hxs
  rw [run_append]
  exact (h.of_prefix hys).append_right.ascends_run hc

end StaysOccupied

/-- While a slot stays occupied after any run of calls on a fresh registry, all its occupants are
of one nominator, and a change of the occupant raises the score. A candidate that was replaced
does not come back to the slot, whatever is nominated: at any later point its removal is reported
as that of a stale candidate, and leaves the better one in its place. -/
theorem ascent_run (settings : Settings) (signals : Option SignalHistory) (before : List Call)
    {calls : List Call} {slot : Slot}
    (h : ((fresh settings signals).run before).registry.StaysOccupied slot calls) :
    let state := fun xs => (((fresh settings signals).run before).registry.run xs).registry
    (∀ xs ys c d, xs <+: ys → ys <+: calls →
      (state xs).get? slot = some c → (state ys).get? slot = some d →
      d.nominator = c.nominator ∧ (c ≠ d → c.score < d.score)) ∧
    ∀ xs ys zs c, xs <+: ys → ys <+: zs → zs <+: calls →
      (state xs).get? slot = some c → (state ys).get? slot ≠ some c →
      (state zs).get? slot ≠ some c ∧
      let s : Step := ⟨state zs, .remove (some c)⟩
      s.Reports (.staleCandidate c.slot.bssid c.slot.networkId) ∧
      s.after.occupants = s.before.occupants ∧
      ∃ d, s.after.get? slot = some d ∧ c.score < d.score := by
  intro state
  constructor
  · intro xs ys c d hxs hys hc hd
    obtain ⟨d', hd', hcd⟩ := h.ascends_of_prefix hxs hys hc
    obtain rfl : d' = d := Option.some.inj (hd'.symm.trans hd)
    exact ⟨hcd.nominator, hcd.eq_or_lt.resolve_left⟩
  · intro xs ys zs c hxs hys hzs hc hne
    obtain ⟨b, hb, hcb⟩ := h.ascends_of_prefix hxs (hys.trans hzs) hc
    obtain ⟨d, hd, hbd⟩ := h.ascends_of_prefix hys hzs hb
    have hcd : c ≠ d := by
      rintro rfl
      exact hne (hb.trans (congrArg some (hcb.antisymm hbd).symm))
    have hstale : (state zs).get? slot ≠ some c := by
      rw [hd, ne_eq, Option.some.injEq]
      exact hcd.symm
    refine ⟨hstale, ?_⟩
    intro s
    have hcoherent : (state xs).IsCoherent := by
      have hrun := isCoherent_run settings signals (before ++ xs)
      rwa [run_append] at hrun
    have hslot : c.slot = slot := hcoherent.slot_eq hc
    have ho : s.outcome = some (.fault (.staleCandidate c.slot.bssid c.slot.networkId)) :=
      outcome_remove_of_ne (by rwa [hslot])
    have hkept : s.after.occupants = s.before.occupants := by
      rw [Step.after_of_outcome ho]
      rfl
    refine ⟨Step.reports_of_fault (Step.fault?_eq_some_iff.mpr ho), hkept, d, ?_, ?_⟩
    · rw [get?, hkept]
      exact hd
    · exact (hcb.trans hbd).eq_or_lt.resolve_left hcd

/-- A candidate that was replaced, nominated again just as before, and removed in vain. -/
theorem ascent_run_atHome :
    let first : Call := .nominate (.atHome 0 10)
    let calls : List Call := [.nominate (.atHome 0 20), first]
    let c := Candidate.atHome 0 10
    let r := ((fresh {} none).run [first]).registry
    let s : Step := ⟨(r.run calls).registry, .remove (some c)⟩
    r.StaysOccupied c.slot calls ∧ r.get? c.slot = some c ∧
    (r.run (calls.take 1)).registry.get? c.slot = some (.atHome 0 20) ∧
    c.score < (Candidate.atHome 0 20).score ∧ (r.run calls).registry.get? c.slot ≠ some c ∧
    s.Reports (.staleCandidate c.slot.bssid c.slot.networkId) := by
  intro first calls c r s
  have h : r.StaysOccupied c.slot calls := StaysOccupied.iff_no_removal.mpr (by decide)
  have hc : r.get? c.slot = some c := by decide
  have hd : (r.run (calls.take 1)).registry.get? c.slot = some (.atHome 0 20) := by decide
  have hne : (r.run (calls.take 1)).registry.get? c.slot ≠ some c := by decide
  obtain ⟨hrise, hgone⟩ := ascent_run {} none [first] h
  obtain ⟨hstale, hreports, -⟩ :=
    hgone [] (calls.take 1) calls c List.nil_prefix (List.take_prefix 1 calls)
      List.prefix_rfl hc hne
  obtain ⟨-, hscore⟩ :=
    hrise [] (calls.take 1) c (.atHome 0 20) List.nil_prefix (List.take_prefix 1 calls) hc hd
  exact ⟨h, hc, hd, hscore (by decide), hstale, hreports⟩

end Registry

end WifiArbiter
