import WifiArbiter.Proofs.Balance
import WifiArbiter.Proofs.Erasure
import WifiArbiter.Proofs.Occupancy

/-!
# Redelivery

Once a nomination has been made, it has done all that it can do. As long as nothing is
removed, the occupant of its slot is of another nominator, or at least as good. So
nominations may come again, in any order and any number of times: they are turned away,
and leave the candidates as they are.

Results:
* `Registry.isSpent_run`: the nominations of a run without removals can do nothing more.
* `Registry.isDone_eq_false_of_isSpent`: a run of such nominations does nothing.
* `Registry.redelivery_run`: the nominations of a run made again, in full.
-/

namespace WifiArbiter

/-- A nomination can do nothing: its slot is taken by another nominator or by a candidate at
least as good, or there is something wrong in it. -/
def Nomination.IsSpent (n : Nomination) (r : Registry) : Prop :=
  ∀ c, n.candidate = .ok c →
    ∃ o, r.get? c.slot = some o ∧ (c.nominator = o.nominator → c.score ≤ o.score)

theorem Nomination.IsSpent.congr {n : Nomination} {r s : Registry} (h : n.IsSpent r)
    (ho : s.occupants = r.occupants) : n.IsSpent s := by
  intro c hc
  rw [Registry.get?, ho]
  exact h c hc

/-- A nomination or a removal that does nothing is a rejection or a fault, and counted as one. -/
theorem Step.counted_of_isDone_eq_false {s : Step} (h : s.isDone = false)
    (ha : s.call.isArbitration = true) :
    s.kind? = some .rejection ∧ s.after.tally = s.before.tally.rejection ∧ s.fault? = none ∨
      s.kind? = some .fault ∧ s.after.tally = s.before.tally.fault ∧ s.fault?.isSome = true := by
  obtain ⟨o, ho⟩ : ∃ o, s.outcome = some o :=
    Option.isSome_iff_exists.mp ((s.before.outcome_isSome s.call).trans ha)
  rw [isDone_of_outcome ho] at h
  rw [kind?_of_outcome ho, after_of_outcome ho, fault?_of_outcome ho]
  cases o with
  | addition _ | replacement _ _ | removal _ => cases h
  | rejection _ _ => exact .inl ⟨rfl, rfl, rfl⟩
  | fault _ => exact .inr ⟨rfl, rfl, rfl⟩

namespace Registry

/-! ## Spent nominations -/

/-- A spent nomination does nothing. -/
theorem isDone_nominate_of_isSpent {n : Nomination} {r : Registry} (h : n.IsSpent r) :
    Step.isDone ⟨r, .nominate n⟩ = false := by
  cases ho : r.outcome (.nominate n) with
  | none => exact Step.isDone_of_none ho
  | some out =>
    rw [Step.isDone_of_outcome (s := ⟨r, .nominate n⟩) ho]
    cases out with
    | addition c =>
      obtain ⟨m, hm, hc, hnone⟩ := outcome_eq_addition_iff.mp ho
      cases hm
      obtain ⟨o, ho, -⟩ := h c hc
      rw [hnone] at ho
      cases ho
    | replacement c o =>
      obtain ⟨m, hm, hc, hsome, hi, hs⟩ := outcome_eq_replacement_iff.mp ho
      cases hm
      obtain ⟨o', ho', hle⟩ := h c hc
      rw [hsome] at ho'
      cases ho'
      exact absurd hs (Int32.not_lt.mpr (hle hi))
    | removal c => cases (outcome_eq_removal_iff.mp ho).1
    | rejection _ _ | fault _ => rfl

/-- The nominations of a run without removals on an empty registry are spent. -/
theorem isSpent_run {r : Registry} (hr : ∀ slot, r.get? slot = none) {calls : List Call}
    (h : ∀ call ∈ calls, call.isRemoval = false) {n : Nomination} (hn : .nominate n ∈ calls) :
    n.IsSpent (r.run calls).registry := by
  intro c hc
  have hocc := occupies_run_of_empty (hr c.slot) calls
  rw [standing_steps h] at hocc
  have hmem : n ∈ (nominations calls).filter (·.IsFor c.slot) := by
    rw [List.mem_filter, mem_nominations_iff, decide_eq_true_iff]
    exact ⟨hn, Nomination.isFor_iff.mpr ⟨c, hc, rfl⟩⟩
  cases ho : (r.run calls).registry.get? c.slot with
  | none =>
    rw [ho] at hocc
    rw [(hocc : _ = [])] at hmem
    cases hmem
  | some o =>
    rw [ho] at hocc
    obtain ⟨m, hm, hp⟩ := hocc
    refine ⟨o, rfl, fun hi => ?_⟩
    have hpn := Nomination.candidate_eq_ok_iff.mp hc
    rw [← hpn.score, ← hp.score]
    apply hm.score_le hmem
    rw [hpn.nominator, hp.nominator, hi]

/-- A run of spent nominations does nothing. -/
theorem isDone_eq_false_of_isSpent {r : Registry} {calls : List Call}
    (h : ∀ call ∈ calls, call.isRemoval = false) (hspent : ∀ n ∈ nominations calls, n.IsSpent r) :
    ∀ s ∈ r.steps calls, s.isDone = false := by
  induction calls generalizing r with
  | nil => exact fun _ hs => absurd hs List.not_mem_nil
  | cons call calls ih =>
    obtain ⟨hcall, hcalls⟩ := List.forall_mem_cons.mp h
    have hdone : Step.isDone ⟨r, call⟩ = false := by
      cases call with
      | nominate n => exact isDone_nominate_of_isSpent (hspent n (.head _))
      | remove _ => cases hcall
      | clearFaults | setStrict _ | choose _ => rfl
    refine List.forall_mem_cons.mpr ⟨hdone, ih hcalls fun n hn => ?_⟩
    -- what does nothing leaves the candidates, and so the others are still spent
    have hn' : n ∈ nominations (call :: calls) :=
      mem_nominations_iff.mpr (.tail _ (mem_nominations_iff.mp hn))
    exact (hspent n hn').congr (Step.reflects_before hdone).occupants

/-- Calls that do nothing leave the candidates, and the counts of what was done. -/
theorem reflects_of_isDone_eq_false {r : Registry} {calls : List Call}
    (h : ∀ s ∈ r.steps calls, s.isDone = false) : (r.run calls).registry.Reflects r := by
  have hnone : r.doneCalls calls = [] := by
    rw [doneCalls, List.map_eq_nil_iff, List.filter_eq_nil_iff]
    intro s hs
    rw [h s hs]
    exact Bool.false_ne_true
  have hrun := ((Reflects.refl r).run_doneCalls calls).2
  rwa [hnone] at hrun

/-- Where nothing is done, the nominations and removals are the rejections and the faults. -/
theorem count_kinds_of_isDone_eq_false {r : Registry} {calls : List Call}
    (h : ∀ s ∈ r.steps calls, s.isDone = false) :
    (kinds (r.steps calls)).count .rejection + (kinds (r.steps calls)).count .fault =
      calls.countP Call.isArbitration := by
  have hkind : ∀ k ∈ kinds (r.steps calls), k = .rejection ∨ k = .fault := by
    intro k hk
    obtain ⟨s, hs, hk⟩ := List.mem_filterMap.mp hk
    have ha : s.call.isArbitration = true := by
      rw [s.isArbitration_eq, hk]
      rfl
    rcases Step.counted_of_isDone_eq_false (h s hs) ha with ⟨hk', -⟩ | ⟨hk', -⟩
    · exact .inl (Option.some.inj (hk.symm.trans hk'))
    · exact .inr (Option.some.inj (hk.symm.trans hk'))
  have hzero : ∀ k, k ≠ .rejection → k ≠ .fault → (kinds (r.steps calls)).count k = 0 :=
    fun k hr hf => List.count_eq_zero.mpr fun hk => (hkind k hk).elim hr hf
  rw [← length_kinds_steps r, ← Outcome.Kind.sum_count, hzero .addition (by decide) (by decide),
    hzero .replacement (by decide) (by decide), hzero .removal (by decide) (by decide)]
  omega

/-- Take any run without removals on an empty registry, and make any of its nominations again, in
any order and any number of times, with strictness switched and faults forgotten in between. None
of them does anything, the candidates stay as they are, and so do the counts of what was done. Each
of them is either turned away or a fault, and counted as such. -/
theorem redelivery_run {r : Registry} (hr : r.size = 0) {calls again : List Call}
    (hcalls : ∀ call ∈ calls, call.isRemoval = false)
    (hagain : ∀ call ∈ again, call.isArbitration = true → call ∈ calls) :
    let full := (r.run calls).registry
    let left := (full.run again).registry
    .outcome (.ok true) ∉ (full.run again).answer ∧
    left.occupants = full.occupants ∧ left.size = full.size ∧
    left.tally.additions = full.tally.additions ∧
    left.tally.replacements = full.tally.replacements ∧
    left.tally.removals = full.tally.removals ∧
    (∀ s ∈ full.steps again, s.call.isArbitration = true →
      s.after.tally = s.before.tally.rejection ∧ s.fault? = none ∨
        s.after.tally = s.before.tally.fault ∧ s.fault?.isSome = true) ∧
    left.tally.rejections + left.tally.faults =
      full.tally.rejections + full.tally.faults + UInt64.ofNat (again.countP Call.isArbitration) := by
  intro full left
  have hremoval : ∀ call ∈ again, call.isRemoval = false := by
    intro call h
    cases call with
    | remove _ => cases hcalls _ (hagain _ h rfl)
    | nominate _ | clearFaults | setStrict _ | choose _ => rfl
  have hspent : ∀ n ∈ nominations again, n.IsSpent full := fun n hn =>
    isSpent_run (get?_of_size_eq_zero hr) hcalls (hagain _ (mem_nominations_iff.mp hn) rfl)
  have hdone : ∀ s ∈ full.steps again, s.isDone = false :=
    isDone_eq_false_of_isSpent hremoval hspent
  have hleft : left.Reflects full := reflects_of_isDone_eq_false hdone
  refine ⟨?_, hleft.occupants, congrArg Table.size hleft.occupants, hleft.additions,
    hleft.replacements, hleft.removals, ?_, ?_⟩
  · rw [← map_reply_steps]
    intro h
    obtain ⟨s, hs, hreply⟩ := List.mem_map.mp h
    rw [← Step.isDone_iff, hdone s hs] at hreply
    cases hreply
  · intro s hs ha
    exact (Step.counted_of_isDone_eq_false (hdone s hs) ha).imp And.right And.right
  · rw [← count_kinds_of_isDone_eq_false hdone]
    exact of_tally_add_run full again .rejection .fault

/-- A candidate that was replaced and one in its slot nominated again, and a nomination without
a saved network. -/
theorem redelivery_run_atHome :
    let r := fresh {} none
    let blank : Nomination := { Nomination.atHome 0 10 with saved := none }
    let calls : List Call := [.nominate (.atHome 0 10), .nominate (.atHome 0 20), .nominate blank]
    let again : List Call := [.nominate (.atHome 0 20), .setStrict true, .nominate blank,
      .nominate (.atHome 0 10), .nominate (.atHome 0 10)]
    let full := (r.run calls).registry
    r.size = 0 ∧ (∀ call ∈ calls, call.isRemoval = false) ∧
    (∀ call ∈ again, call.isArbitration = true → call ∈ calls) ∧
    .outcome (.ok true) ∉ (full.run again).answer ∧
    (full.run again).registry.occupants = full.occupants ∧
    (full.run again).registry.tally.rejections + (full.run again).registry.tally.faults =
      full.tally.rejections + full.tally.faults + 4 := by
  intro r blank calls again full
  have hcalls : ∀ call ∈ calls, call.isRemoval = false := by decide
  have hagain : ∀ call ∈ again, call.isArbitration = true → call ∈ calls := by
    simp [again, calls, Call.isArbitration]
  obtain ⟨hanswer, hoccupants, -, -, -, -, -, htally⟩ :=
    redelivery_run (r := r) rfl hcalls hagain
  exact ⟨rfl, hcalls, hagain, hanswer, hoccupants, htally⟩

end Registry

end WifiArbiter
