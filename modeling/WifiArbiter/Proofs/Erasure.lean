import WifiArbiter.Proofs.History

/-!
# Erasure

What comes to nothing leaves no trace on arbitration. A call that was not answered
by saying that something was done can be left out of a run, and the rest of the run
goes as it did: turned away nominations, faults of all kinds, switches of strictness,
clearings and choices alike. Any other way of looking at a registry is a function of
it and no call at all.

Results:
* `Step.reflects_before`: a call that comes to nothing leaves the candidates, and the
  counts of what was done.
* `Registry.Reflects.run_doneCalls`: the calls that came to something do so without
  the others.
* `Registry.erasure_run`: the same for the runs of a fresh registry.
-/

namespace WifiArbiter

/-- Two registries have the same candidates, and the same counts of what was done. -/
structure Registry.Reflects (r s : Registry) : Prop where
  occupants : r.occupants = s.occupants
  additions : r.tally.additions = s.tally.additions
  replacements : r.tally.replacements = s.tally.replacements
  removals : r.tally.removals = s.tally.removals

/-- The calls of a run that were answered by saying that something was done. -/
def Registry.doneCalls (r : Registry) (calls : List Call) : List Call :=
  ((r.steps calls).filter Step.isDone).map Step.call

namespace Registry.Reflects

variable {r s t : Registry}

theorem refl (r : Registry) : r.Reflects r :=
  ⟨rfl, rfl, rfl, rfl⟩

theorem trans (h : r.Reflects s) (h' : s.Reflects t) : r.Reflects t :=
  ⟨h.occupants.trans h'.occupants, h.additions.trans h'.additions,
    h.replacements.trans h'.replacements, h.removals.trans h'.removals⟩

/-- An outcome has the same effect on both registries. -/
theorem settle (h : r.Reflects s) (o : Outcome) :
    (r.settle o).registry.Reflects (s.settle o).registry := by
  cases o with
  | addition c =>
    exact ⟨congrArg (·.insert c.slot c) h.occupants, congrArg (· + 1) h.additions,
      h.replacements, h.removals⟩
  | replacement c _ =>
    exact ⟨congrArg (·.insert c.slot c) h.occupants, h.additions,
      congrArg (· + 1) h.replacements, h.removals⟩
  | removal c =>
    exact ⟨congrArg (·.erase c.slot) h.occupants, h.additions, h.replacements,
      congrArg (· + 1) h.removals⟩
  | rejection _ _ | fault _ => exact ⟨h.occupants, h.additions, h.replacements, h.removals⟩

end Registry.Reflects

namespace Step

variable {s : Step}

theorem isDone_iff : s.isDone = true ↔ s.reply = .outcome (.ok true) := by
  unfold isDone
  split
  · rename_i done h
    rw [h]
    simp
  · rename_i h
    constructor
    · intro hf
      cases hf
    · intro hr
      exact absurd hr (h true)

/-- What comes to nothing leaves the candidates, and the counts of what was done. -/
theorem reflects_before (h : s.isDone = false) : s.after.Reflects s.before := by
  cases ho : s.outcome with
  | none =>
    obtain ⟨hoccupants, htally⟩ := Registry.perform_of_outcome_eq_none ho
    exact ⟨hoccupants, by rw [after, htally], by rw [after, htally], by rw [after, htally]⟩
  | some o =>
    rw [isDone_of_outcome ho] at h
    rw [after_of_outcome ho]
    cases o with
    | addition _ | replacement _ _ | removal _ => cases h
    | rejection _ _ | fault _ => exact ⟨rfl, rfl, rfl, rfl⟩

/-- What comes to something does so on every registry with the same candidates, and to the same
effect. -/
theorem reflects_of_isDone {r t : Registry} {call : Call} (h : r.Reflects t)
    (hd : isDone ⟨r, call⟩ = true) :
    isDone ⟨t, call⟩ = true ∧ (after ⟨r, call⟩).Reflects (after ⟨t, call⟩) := by
  have hget : ∀ slot, r.get? slot = t.get? slot := fun slot =>
    congrArg (·.get? slot) h.occupants
  have houtcome : outcome ⟨r, call⟩ = outcome ⟨t, call⟩ := Registry.outcome_congr hget call
  cases ho : outcome ⟨r, call⟩ with
  | none =>
    rw [isDone_of_none ho] at hd
    cases hd
  | some o =>
    have ho' : outcome ⟨t, call⟩ = some o := houtcome.symm.trans ho
    rw [isDone_of_outcome ho] at hd
    rw [isDone_of_outcome ho', after_of_outcome ho, after_of_outcome ho']
    exact ⟨hd, h.settle o⟩

end Step

namespace Registry

theorem doneCalls_cons_of_pos {r : Registry} {call : Call} (h : Step.isDone ⟨r, call⟩ = true)
    (calls : List Call) :
    r.doneCalls (call :: calls) = call :: (r.perform call).registry.doneCalls calls := by
  rw [doneCalls, steps, List.filter_cons_of_pos h]
  rfl

theorem doneCalls_cons_of_neg {r : Registry} {call : Call} (h : Step.isDone ⟨r, call⟩ = false)
    (calls : List Call) :
    r.doneCalls (call :: calls) = (r.perform call).registry.doneCalls calls := by
  rw [doneCalls, steps, List.filter_cons_of_neg (Bool.eq_false_iff.mp h)]
  rfl

/-- The calls that come to something do so without the others, and to the same effect. -/
theorem Reflects.run_doneCalls {r s : Registry} (h : r.Reflects s) (calls : List Call) :
    (∀ t ∈ s.steps (r.doneCalls calls), t.isDone = true) ∧
      (r.run calls).registry.Reflects (s.run (r.doneCalls calls)).registry := by
  induction calls generalizing r s with
  | nil => exact ⟨fun _ ht => absurd ht List.not_mem_nil, h⟩
  | cons call calls ih =>
    cases hd : Step.isDone ⟨r, call⟩ with
    | false =>
      -- the other run stands still
      rw [doneCalls_cons_of_neg hd]
      exact ih ((Step.reflects_before hd).trans h)
    | true =>
      obtain ⟨hdone, hafter⟩ := Step.reflects_of_isDone h hd
      obtain ⟨hrest, hend⟩ := ih hafter
      rw [doneCalls_cons_of_pos hd]
      exact ⟨List.forall_mem_cons.mpr ⟨hdone, hrest⟩, hend⟩

/-- If from a run of calls on a fresh registry all those are left out that were not answered by
saying that something was done, each of the others is again answered so, and what is left are the
same candidates and the same counts of additions, replacements and removals. -/
theorem erasure_run (settings : Settings) (signals : Option SignalHistory) (calls : List Call) :
    let r := fresh settings signals
    let kept := ((r.steps calls).filter Step.isDone).map Step.call
    kept.Sublist calls ∧
    (r.run kept).answer = List.replicate kept.length (.outcome (.ok true)) ∧
    (r.run kept).registry.occupants = (r.run calls).registry.occupants ∧
    (r.run kept).registry.tally.additions = (r.run calls).registry.tally.additions ∧
    (r.run kept).registry.tally.replacements = (r.run calls).registry.tally.replacements ∧
    (r.run kept).registry.tally.removals = (r.run calls).registry.tally.removals := by
  intro r kept
  obtain ⟨hdone, hend⟩ := (Reflects.refl r).run_doneCalls calls
  refine ⟨?_, ?_, hend.occupants.symm, hend.additions.symm, hend.replacements.symm,
    hend.removals.symm⟩
  · have hsub : kept.Sublist ((r.steps calls).map Step.call) := List.filter_sublist.map _
    rwa [map_call_steps] at hsub
  · rw [← map_reply_steps, List.eq_replicate_iff]
    refine ⟨(List.length_map _).trans (length_steps r kept), fun a ha => ?_⟩
    obtain ⟨s, hs, rfl⟩ := List.mem_map.mp ha
    exact Step.isDone_iff.mp (hdone s hs)

end Registry

end WifiArbiter
