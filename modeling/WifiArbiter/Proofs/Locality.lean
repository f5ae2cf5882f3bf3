import WifiArbiter.Proofs.Balance
import WifiArbiter.Proofs.Reordering

/-!
# Locality

A nomination is about the slot of the candidate that it puts forward, a removal about the
slot of the candidate that it takes away, and a call with something wrong in it about none.
What a call comes to depends on the occupant of its slot alone, and it leaves all other
slots as they are. So the calls on one slot do not notice those on the others, and may be
made in any order with respect to them.

Results:
* `Registry.outcome_congr_slot`: the outcome of a call depends on the occupant of its slot.
* `Registry.get?_perform_of_ne`: a call leaves the slots that it is not about.
* `Registry.get?_run_filter`: the occupant of a slot after a run is due to the calls about
  the slot.
* `Registry.outcome_reorder`: each call comes to the same in another order that keeps that
  of the calls on each slot.
* `Registry.locality_run`: a run in such an order, in full.
-/

namespace WifiArbiter

/-- The slot that a call is about, if it is about one. -/
def Call.slot? : Call → Option Slot
  | .nominate n => n.candidate.toOption.map Candidate.slot
  | .remove c? => c?.map Candidate.slot
  | .clearFaults | .setStrict _ | .choose _ => none

/-- Two calls are about the same slot. -/
def Call.SharesSlot (a b : Call) : Prop :=
  ∃ slot ∈ a.slot?, slot ∈ b.slot?

instance : DecidableRel Call.SharesSlot := fun a b =>
  inferInstanceAs (Decidable (∃ slot ∈ a.slot?, slot ∈ b.slot?))

theorem Call.slot?_nominate {n : Nomination} {c : Candidate} (h : n.candidate = .ok c) :
    (Call.nominate n).slot? = some c.slot := by
  rw [slot?, h]
  rfl

namespace Registry

variable {r s : Registry} {call : Call} {slot : Slot}

/-! ## One call -/

/-- The outcome of a call depends on the occupant of its slot alone. -/
theorem outcome_congr_slot (h : ∀ slot ∈ call.slot?, r.get? slot = s.get? slot) :
    r.outcome call = s.outcome call := by
  cases call with
  | nominate n =>
    cases hc : n.candidate with
    | error f => simp only [outcome, hc]
    | ok c =>
      have hslot := h c.slot (Call.slot?_nominate hc)
      simp only [outcome, hc, hslot]
  | remove c? =>
    cases c? with
    | none => rfl
    | some c =>
      have hslot := h c.slot rfl
      simp only [outcome, hslot]
  | clearFaults | setStrict _ | choose _ => rfl

/-- A call leaves the slots that it is not about. -/
theorem get?_perform_of_ne (h : call.slot? ≠ some slot) :
    (r.perform call).registry.get? slot = r.get? slot := by
  cases call with
  | nominate n =>
    rw [perform, nominate]
    cases hc : n.candidate with
    | error f => rfl
    | ok c =>
      have hslot : slot ≠ c.slot := by
        rintro rfl
        exact h (Call.slot?_nominate hc)
      exact (r.get?_consider c slot).trans (if_neg fun hand => hslot hand.1)
  | remove c? =>
    cases c? with
    | none => rfl
    | some c =>
      have hslot : slot ≠ c.slot := by
        rintro rfl
        exact h rfl
      exact (r.get?_remove_some c slot).trans (if_neg fun hand => hslot hand.1)
  | clearFaults | setStrict _ | choose _ => rfl

/-- The outcome of a call, if it has one, tells the occupants that it leaves. -/
theorem get?_perform (r : Registry) (call : Call) (slot : Slot) :
    (r.perform call).registry.get? slot =
      (r.outcome call).elim (r.get? slot) (Outcome.occupant slot (r.get? slot)) := by
  cases ho : r.outcome call with
  | none => exact Step.get?_after_of_none (s := ⟨r, call⟩) ho slot
  | some o => exact Step.get?_after_of_outcome (s := ⟨r, call⟩) ho slot

/-- What a call leaves in its slot depends on what it finds there. -/
theorem get?_perform_congr (hcall : call.slot? = some slot) (h : r.get? slot = s.get? slot) :
    (r.perform call).registry.get? slot = (s.perform call).registry.get? slot := by
  have ho : r.outcome call = s.outcome call := by
    apply outcome_congr_slot
    rintro _ hs
    cases hcall.symm.trans hs
    exact h
  rw [get?_perform, get?_perform, ho, h]

/-! ## Runs -/

/-- The occupant of a slot after a run is due to the calls about the slot. -/
theorem get?_run_filter (h : r.get? slot = s.get? slot) (calls : List Call) :
    (r.run calls).registry.get? slot =
      (s.run (calls.filter fun call => call.slot? = some slot)).registry.get? slot := by
  induction calls generalizing r s with
  | nil => exact h
  | cons call calls ih =>
    by_cases hcall : call.slot? = some slot
    · rw [List.filter_cons_of_pos (by simpa using hcall)]
      exact ih (get?_perform_congr hcall h)
    · rw [List.filter_cons_of_neg (by simpa using hcall)]
      exact ih ((get?_perform_of_ne hcall).trans h)

theorem get?_run_congr {as bs : List Call}
    (h : as.filter (fun call => call.slot? = some slot) =
      bs.filter fun call => call.slot? = some slot) :
    (r.run as).registry.get? slot = (r.run bs).registry.get? slot := by
  rw [get?_run_filter (s := r) rfl, h, ← get?_run_filter rfl]

/-- Nominations and removals leave the settings. -/
theorem settings_run {calls : List Call} (h : ∀ call ∈ calls, call.isArbitration = true) :
    (r.run calls).registry.settings = r.settings := by
  induction calls generalizing r with
  | nil => rfl
  | cons call calls ih =>
    obtain ⟨hcall, hcalls⟩ := List.forall_mem_cons.mp h
    obtain ⟨o, ho⟩ : ∃ o, r.outcome call = some o :=
      Option.isSome_iff_exists.mp ((r.outcome_isSome call).trans hcall)
    have hafter : (r.perform call).registry = (r.settle o).registry :=
      Step.after_of_outcome (s := ⟨r, call⟩) ho
    exact (ih hcalls).trans (by rw [hafter, settings_settle])

/-! ## Runs in another order -/

section Reorder

variable {calls : List Call} {σ : Equiv.Perm (Fin calls.length)}

/-- Each call comes to the same in another order that keeps that of the calls on each slot. -/
theorem outcome_reorder (hσ : KeepsOrder Call.SharesSlot calls σ) (r : Registry)
    (i : Fin calls.length) :
    (r.run ((reorder calls σ).take i)).registry.outcome (calls.get (σ i)) =
      (r.run (calls.take (σ i))).registry.outcome (calls.get (σ i)) := by
  apply outcome_congr_slot
  intro slot hslot
  apply get?_run_congr
  apply hσ.filter_take_eq
  · intro a b ha hb
    exact ⟨slot, of_decide_eq_true ha, of_decide_eq_true hb⟩
  · exact decide_eq_true hslot

/-- In such an order, the calls of a run come to the same things. -/
theorem perm_outcomes (hσ : KeepsOrder Call.SharesSlot calls σ) (r : Registry) :
    ((r.steps (reorder calls σ)).map Step.outcome).Perm ((r.steps calls).map Step.outcome) := by
  let f := fun i : Fin calls.length => (r.run (calls.take i)).registry.outcome (calls.get i)
  have hcalls : (r.steps calls).map Step.outcome = List.ofFn f := by
    apply List.ext_getElem?
    intro i
    rw [List.getElem?_map, getElem?_steps, List.getElem?_ofFn]
    split_ifs with hi
    · rw [List.getElem?_eq_getElem hi]
      rfl
    · rw [List.getElem?_eq_none (not_lt.mp hi)]
      rfl
  have hmoved : (r.steps (reorder calls σ)).map Step.outcome = List.ofFn (f ∘ σ) := by
    apply List.ext_getElem?
    intro i
    rw [List.getElem?_map, getElem?_steps, List.getElem?_ofFn]
    split_ifs with hi
    · rw [getElem?_reorder calls σ ⟨i, hi⟩]
      exact congrArg some (outcome_reorder hσ r ⟨i, hi⟩)
    · rw [List.getElem?_eq_none (by simpa [reorder] using hi)]
      rfl
  rw [hcalls, hmoved]
  exact σ.ofFn_comp_perm f

/-- In such an order, each call is answered as before. -/
theorem reply_reorder (hcalls : ∀ call ∈ calls, call.isArbitration = true)
    (hσ : KeepsOrder Call.SharesSlot calls σ) (r : Registry) (i : Fin calls.length) :
    Step.reply ⟨(r.run ((reorder calls σ).take i)).registry, calls.get (σ i)⟩ =
      Step.reply ⟨(r.run (calls.take (σ i))).registry, calls.get (σ i)⟩ := by
  have hmoved : ∀ call ∈ reorder calls σ, call.isArbitration = true := fun call h =>
    hcalls call ((reorder_perm calls σ).mem_iff.mp h)
  obtain ⟨o, ho⟩ : ∃ o, (r.run (calls.take (σ i))).registry.outcome (calls.get (σ i)) = some o := by
    apply Option.isSome_iff_exists.mp
    rw [outcome_isSome]
    exact hcalls _ (List.get_mem _ _)
  have ho' := (outcome_reorder hσ r i).trans ho
  rw [Step.reply_of_outcome (s := ⟨_, _⟩) ho, Step.reply_of_outcome (s := ⟨_, _⟩) ho']
  rw [settings_run fun call h => hmoved call (List.mem_of_mem_take h),
    settings_run fun call h => hcalls call (List.mem_of_mem_take h)]

end Reorder

theorem getElem?_answer (r : Registry) (calls : List Call) (i : ℕ) :
    (r.run calls).answer[i]? =
      calls[i]?.map fun call => Step.reply ⟨(r.run (calls.take i)).registry, call⟩ := by
  rw [← map_reply_steps, List.getElem?_map, getElem?_steps, Option.map_map]
  rfl

/-- Nominations and removals on any registry may be made in another order that keeps the order of
those on each slot: each is answered as before, and what is left are the same candidates, the same
tally and the same number of faults. -/
theorem locality_run (r : Registry) {calls : List Call}
    (hcalls : ∀ call ∈ calls, call.isArbitration = true) {σ : Equiv.Perm (Fin calls.length)}
    (hσ : KeepsOrder Call.SharesSlot calls σ) :
    let before := r.run calls
    let after := r.run (reorder calls σ)
    (∀ i : Fin calls.length, ∃ reply,
      before.answer[(σ i : ℕ)]? = some reply ∧ after.answer[(i : ℕ)]? = some reply) ∧
    (∀ slot, after.registry.get? slot = before.registry.get? slot) ∧
    after.registry.tally = before.registry.tally ∧
    after.registry.faultCount = before.registry.faultCount := by
  intro before after
  have hkinds : ∀ k, (kinds (r.steps (reorder calls σ))).count k =
      (kinds (r.steps calls)).count k := by
    intro k
    have hperm := (perm_outcomes hσ r).filterMap (Option.map Outcome.kind)
    rw [List.filterMap_map, List.filterMap_map] at hperm
    exact hperm.count_eq k
  have hclearing : ∀ call ∈ calls, call.isClearing = false := by
    intro call h
    cases call with
    | clearFaults => cases hcalls _ h
    | nominate _ | remove _ | setStrict _ | choose _ => rfl
  refine ⟨fun i => ?_, fun slot => ?_, ?_, ?_⟩
  · refine ⟨Step.reply ⟨(r.run (calls.take (σ i))).registry, calls.get (σ i)⟩, ?_, ?_⟩
    · rw [getElem?_answer, List.getElem?_eq_getElem (σ i).isLt]
      rfl
    · rw [getElem?_answer, getElem?_reorder]
      exact congrArg some (reply_reorder hcalls hσ r i)
  · apply get?_run_congr
    apply hσ.filter_eq
    intro a b ha hb
    exact ⟨slot, of_decide_eq_true ha, of_decide_eq_true hb⟩
  · apply Tally.ext_of
    intro k
    rw [of_tally_run, of_tally_run, hkinds]
  · rw [faultCount_run r hclearing, faultCount_run r, hkinds]
    intro call h
    exact hclearing call ((reorder_perm calls σ).mem_iff.mp h)

/-- A removal in vain put last, and a nomination for another slot put first. -/
theorem locality_run_atHome :
    let other : Nomination := { Nomination.atHome 0 10 with saved := some (.psk ⟨2⟩ "home") }
    let r := ((fresh {} none).run [.nominate (.atHome 0 10)]).registry
    let calls : List Call := [.remove none, .nominate (.atHome 0 20), .nominate other,
      .remove (some (.atHome 0 20))]
    let σ : Equiv.Perm (Fin 4) := (Equiv.swap 0 2).trans (Equiv.swap 0 3)
    let moved : List Call := [.nominate other, .nominate (.atHome 0 20),
      .remove (some (.atHome 0 20)), .remove none]
    (∀ call ∈ calls, call.isArbitration = true) ∧ KeepsOrder Call.SharesSlot calls σ ∧
    reorder calls σ = moved ∧
    (∃ reply, (r.run calls).answer[3]? = some reply ∧ (r.run moved).answer[2]? = some reply) ∧
    (r.run moved).registry.tally = (r.run calls).registry.tally := by
  intro other r calls σ moved
  have hcalls : ∀ call ∈ calls, call.isArbitration = true := by decide
  have hσ : KeepsOrder Call.SharesSlot calls σ := by decide
  obtain ⟨hanswer, -, htally, -⟩ := locality_run r hcalls hσ
  exact ⟨hcalls, hσ, rfl, hanswer 2, htally⟩

end Registry

end WifiArbiter
