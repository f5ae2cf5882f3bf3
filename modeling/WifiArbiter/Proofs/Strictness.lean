import Mathlib.Data.List.Forall2
import WifiArbiter.Proofs.Coherence

/-!
# Strictness

Whether faults are errors decides how a call with a fault is answered, and nothing
else. Two registries that agree in all but their settings and signals go on to
agree, call by call, however the strictness of each is switched in between.

Results:
* `Step.reports_of_fault`: how a call with a fault is answered.
* `Step.matches_of_agrees`: the same call on registries that agree.
* `Registry.strictness_run`: runs of the same calls match step by step.
-/

namespace WifiArbiter

/-- Two registries are alike but for their settings, their signals and the order of their
entries. -/
structure Registry.Agrees (r s : Registry) : Prop where
  get? : ∀ slot, r.get? slot = s.get? slot
  tally : r.tally = s.tally
  lastFault : r.lastFault = s.lastFault
  faultCount : r.faultCount = s.faultCount

/-- A step reports a fault: as an error where faults are errors, and on record in any case. -/
structure Step.Reports (s : Step) (f : Fault) : Prop where
  reply : s.reply = .outcome (if s.before.settings.strict then .error (.fault f) else .ok false)
  lastFault : s.after.lastFault = some f
  fault?_error : ∀ e, s.reply = .outcome (.error e) → e.fault? = some f

/-- Two steps are of the same call, with the same effect on all but settings and signals. Without
a fault they have the same answer, which is no error; a fault they both report. -/
structure Step.Matches (s t : Step) : Prop where
  call : s.call = t.call
  agrees : s.after.Agrees t.after
  fault? : s.fault? = t.fault?
  reply : s.fault? = none → s.reply = t.reply ∧ ∀ e, s.reply ≠ .outcome (.error e)
  reports : ∀ f, s.fault? = some f → s.Reports f ∧ t.Reports f

namespace Registry

/-! ## Agreement -/

namespace Agrees

variable {r s : Registry}

theorem symm (h : r.Agrees s) : s.Agrees r :=
  ⟨fun slot => (h.get? slot).symm, h.tally.symm, h.lastFault.symm, h.faultCount.symm⟩

/-- An outcome has the same effect on registries that agree. -/
theorem settle (h : r.Agrees s) (o : Outcome) :
    (r.settle o).registry.Agrees (s.settle o).registry := by
  refine ⟨fun slot => ?_, ?_, ?_, ?_⟩
  · rw [get?_settle, get?_settle, h.get?]
  · rw [tally_settle, tally_settle, h.tally]
  · rw [lastFault_settle, lastFault_settle, h.lastFault]
  · rw [faultCount_settle, faultCount_settle, h.faultCount]

/-- A call that bears on neither the candidates nor the faults leaves the agreement. -/
theorem perform_left {call : Call} (h : r.Agrees s) (hc : call.isMaterial = false) :
    (r.perform call).registry.Agrees s := by
  cases call with
  | nominate _ | remove _ | clearFaults => cases hc
  | setStrict _ | choose _ => exact ⟨h.get?, h.tally, h.lastFault, h.faultCount⟩

theorem run_right {calls : List Call} (h : r.Agrees s) (hc : ∀ c ∈ calls, c.isMaterial = false) :
    r.Agrees (s.run calls).registry := by
  induction calls generalizing s with
  | nil => exact h
  | cons call calls ih =>
    apply ih (h.symm.perform_left (hc call List.mem_cons_self)).symm
    intro c hcm
    exact hc c (List.mem_cons_of_mem _ hcm)

end Agrees

end Registry

/-! ## Steps that match -/

namespace Step

theorem fault?_eq_some_iff {s : Step} {f : Fault} :
    s.fault? = some f ↔ s.outcome = some (.fault f) := by
  rw [fault?, Registry.fault?, ← outcome, Option.bind_eq_some_iff]
  constructor
  · rintro ⟨o, ho, hf⟩
    rw [ho]
    cases o <;> cases hf
    rfl
  · intro ho
    exact ⟨_, ho, rfl⟩

/-- A call with a fault is answered by the fault where faults are errors, and otherwise by saying
that nothing was done. -/
theorem reports_of_fault {s : Step} {f : Fault} (h : s.fault? = some f) : s.Reports f := by
  have ho := fault?_eq_some_iff.mp h
  have hreply := reply_of_outcome ho
  refine ⟨hreply, ?_, ?_⟩
  · rw [after_of_outcome ho]
    rfl
  · intro e he
    rw [hreply, Outcome.answer] at he
    split_ifs at he
    · cases he
      rfl
    · cases he

/-- Without a fault the answer to a nomination or a removal does not depend on strictness. -/
theorem reply_of_fault?_eq_none {s t : Step} {o : Outcome} (hs : s.outcome = some o)
    (ht : t.outcome = some o) (hf : o.fault? = none) :
    s.reply = t.reply ∧ ∀ e, s.reply ≠ .outcome (.error e) := by
  rw [reply_of_outcome hs, reply_of_outcome ht]
  cases o with
  | fault f => cases hf
  | addition _ | replacement _ _ | rejection _ _ | removal _ =>
    exact ⟨rfl, fun e he => by cases he⟩

/-- Calls with the same outcome on registries that agree. -/
theorem matches_of_outcome {s t : Step} {o : Outcome} (hcall : s.call = t.call)
    (h : s.before.Agrees t.before) (hs : s.outcome = some o) (ht : t.outcome = some o) :
    s.Matches t := by
  have hfault : s.fault? = t.fault? :=
    (fault?_of_outcome hs).trans (fault?_of_outcome ht).symm
  refine ⟨hcall, ?_, hfault, ?_, ?_⟩
  · rw [after_of_outcome hs, after_of_outcome ht]
    exact h.settle o
  · intro hnone
    rw [fault?_of_outcome hs] at hnone
    exact reply_of_fault?_eq_none hs ht hnone
  · intro f hf
    exact ⟨reports_of_fault hf, reports_of_fault (hfault ▸ hf)⟩

/-- Faults forgotten by registries that agree. -/
theorem matches_clearFaults {r s : Registry} (h : r.Agrees s) :
    Matches ⟨r, .clearFaults⟩ ⟨s, .clearFaults⟩ := by
  refine ⟨rfl, ⟨h.get?, h.tally, rfl, rfl⟩, rfl, ?_, ?_⟩
  · intro _
    exact ⟨rfl, fun _ he => by cases he⟩
  · intro f hf
    cases hf

/-- The same call on registries that agree. -/
theorem matches_of_agrees {r s : Registry} {call : Call} (h : r.Agrees s)
    (hc : call.isMaterial = true) : Matches ⟨r, call⟩ ⟨s, call⟩ := by
  have houtcome : r.outcome call = s.outcome call := Registry.outcome_congr h.get? call
  cases ho : r.outcome call with
  | some o => exact matches_of_outcome rfl h ho (houtcome.symm.trans ho)
  | none =>
    -- all that is left without an outcome is to forget the faults
    have ha : call.isArbitration = false := isArbitration_of_none (s := ⟨r, call⟩) ho
    cases call with
    | clearFaults => exact matches_clearFaults h
    | nominate _ | remove _ => cases ha
    | setStrict _ | choose _ => cases hc

end Step

namespace Registry

/-! ## Runs that match -/

/-- The steps of a run that bear on the candidates or the faults. -/
def materialSteps (r : Registry) (calls : List Call) : List Step :=
  (r.steps calls).filter (·.call.isMaterial)

theorem materialSteps_append (r : Registry) (before after : List Call) :
    r.materialSteps (before ++ after) =
      r.materialSteps before ++ (r.run before).registry.materialSteps after := by
  rw [materialSteps, steps_append, List.filter_append]
  rfl

theorem materialSteps_eq_nil {calls : List Call} (r : Registry)
    (h : ∀ c ∈ calls, c.isMaterial = false) : r.materialSteps calls = [] := by
  rw [materialSteps, List.filter_eq_nil_iff]
  intro s hs
  have hmem : s.call ∈ calls := by
    rw [← map_call_steps r calls]
    exact List.mem_map_of_mem hs
  rw [h s.call hmem]
  exact Bool.false_ne_true

theorem materialSteps_cons_of_pos {call : Call} (r : Registry) (calls : List Call)
    (h : call.isMaterial = true) :
    r.materialSteps (call :: calls) =
      ⟨r, call⟩ :: (r.perform call).registry.materialSteps calls :=
  List.filter_cons_of_pos h

theorem materialSteps_cons_of_neg {call : Call} (r : Registry) (calls : List Call)
    (h : call.isMaterial = false) :
    r.materialSteps (call :: calls) = (r.perform call).registry.materialSteps calls :=
  List.filter_cons_of_neg (Bool.eq_false_iff.mp h)

/-- Registries that agree, on which the same nominations, removals and clearings are made, agree
after each of them and answer each alike but for the form of a fault. In either run strictness may
be switched at any time, and choices made. -/
theorem strictness_run {r s : Registry} (h : r.Agrees s) {as bs : List Call}
    (hcalls : as.filter Call.isMaterial = bs.filter Call.isMaterial) :
    List.Forall₂ Step.Matches (r.materialSteps as) (s.materialSteps bs) ∧
      (r.run as).registry.Agrees (s.run bs).registry := by
  induction as generalizing r s bs with
  | nil =>
    have hb : ∀ c ∈ bs, c.isMaterial = false := by
      intro c hc
      exact Bool.eq_false_iff.mpr (List.filter_eq_nil_iff.mp hcalls.symm c hc)
    rw [materialSteps_eq_nil s hb]
    exact ⟨.nil, h.run_right hb⟩
  | cons a as ih =>
    cases ha : a.isMaterial with
    | false =>
      rw [List.filter_cons_of_neg (Bool.eq_false_iff.mp ha)] at hcalls
      rw [materialSteps_cons_of_neg r as ha]
      exact ih (h.perform_left ha) hcalls
    | true =>
      -- the other run comes to the same call after calls that do not matter
      rw [List.filter_cons_of_pos ha] at hcalls
      obtain ⟨before, after, rfl, hbefore, -, hafter⟩ :=
        List.filter_eq_cons_iff.mp hcalls.symm
      have hb : ∀ c ∈ before, c.isMaterial = false :=
        fun c hc => Bool.eq_false_iff.mpr (hbefore c hc)
      have hstep := Step.matches_of_agrees (h.run_right hb) ha
      obtain ⟨hmatch, hagree⟩ := ih hstep.agrees hafter.symm
      rw [materialSteps_cons_of_pos r as ha, materialSteps_append,
        materialSteps_eq_nil s hb, List.nil_append, materialSteps_cons_of_pos _ after ha,
        run_append]
      exact ⟨.cons hstep hmatch, hagree⟩

/-- A fault that is an error to one registry and only on record with the other. -/
theorem strictness_run_atHome :
    let r := fresh {} none
    let s := fresh .silent (some ⟨fun _ _ _ => none⟩)
    let as : List Call := [.nominate (.atHome 0 10), .setStrict true, .remove none]
    let bs : List Call := [.setStrict false, .nominate (.atHome 0 10), .remove none]
    r.Agrees s ∧ as.filter Call.isMaterial = bs.filter Call.isMaterial ∧
    (r.run as).answer = [.outcome (.ok true), .done, .outcome (.error (.fault .noCandidate))] ∧
    (s.run bs).answer = [.done, .outcome (.ok true), .outcome (.ok false)] ∧
    List.Forall₂ Step.Matches (r.materialSteps as) (s.materialSteps bs) ∧
    (r.run as).registry.Agrees (s.run bs).registry := by
  intro r s as bs
  have h : r.Agrees s := ⟨fun _ => rfl, rfl, rfl, rfl⟩
  have hcalls : as.filter Call.isMaterial = bs.filter Call.isMaterial := rfl
  exact ⟨h, hcalls, rfl, rfl, strictness_run h hcalls⟩

end Registry

end WifiArbiter
