import Mathlib.Tactic.SplitIfs
import WifiArbiter.Registry.Call

/-!
# Outcomes

A nomination or a removal comes to one of five things: a candidate enters its
empty slot, takes the place of the occupant, is turned away, or leaves its slot,
or the call has a fault. Which of them it is depends on the call and on the
occupants alone; what it then does to a registry depends on the outcome alone.

Results:
* `Registry.perform_eq_settle`: a nomination or removal does what its outcome says.
* `Registry.get?_settle`, `tally_settle`, `lastFault_settle`, `faultCount_settle`,
  `answer_settle`: what an outcome does to a registry, and how the call is answered.
* `Registry.outcome_congr`: the outcome depends on the occupants alone.
-/

namespace WifiArbiter

/-- What a nomination or a removal comes to. -/
inductive Outcome where
  /-- A candidate enters its empty slot. -/
  | addition (c : Candidate)
  /-- A candidate takes the place of an occupant with a lower score from its nominator. -/
  | replacement (c occupant : Candidate)
  /-- A candidate is from a later nominator, or no better than the occupant. -/
  | rejection (c occupant : Candidate)
  /-- A candidate leaves its slot. -/
  | removal (c : Candidate)
  /-- There is something wrong with the call. -/
  | fault (f : Fault)
deriving DecidableEq

namespace Outcome

/-- The fault, if the outcome is one. -/
def fault? : Outcome → Option Fault
  | fault f => some f
  | _ => none

/-- The candidate that enters its slot, if one does. -/
def entrant? : Outcome → Option Candidate
  | addition c | replacement c _ => some c
  | _ => none

/-- The occupant of a slot after an outcome, given the one before. -/
def occupant (slot : Slot) (before : Option Candidate) : Outcome → Option Candidate
  | addition c | replacement c _ => if slot = c.slot then some c else before
  | removal c => if slot = c.slot then none else before
  | rejection .. | fault _ => before

/-- Whether something was done to the occupants. -/
def isDone : Outcome → Bool
  | addition _ | replacement .. | removal _ => true
  | rejection .. | fault _ => false

/-- The answer to a call with an outcome, where faults are errors or not. -/
def answer (strict : Bool) : Outcome → Except SelectionError Bool
  | addition _ | replacement .. | removal _ => .ok true
  | rejection .. => .ok false
  | fault f => if strict then .error (.fault f) else .ok false

/-- The tally with an outcome counted. -/
def count (t : Tally) : Outcome → Tally
  | addition _ => t.addition
  | replacement .. => t.replacement
  | rejection .. => t.rejection
  | removal _ => t.removal
  | fault _ => t.fault

/-- The occupant after an outcome is the one before or the entrant. -/
theorem occupant_eq_some {o : Outcome} {slot : Slot} {before : Option Candidate} {c : Candidate}
    (h : o.occupant slot before = some c) :
    before = some c ∨ o.entrant? = some c ∧ c.slot = slot := by
  cases o with
  | addition d | replacement d _ =>
    rw [occupant] at h
    split_ifs at h with hslot
    · cases h
      exact .inr ⟨rfl, hslot.symm⟩
    · exact .inl h
  | removal d =>
    rw [occupant] at h
    split_ifs at h
    exact .inl h
  | rejection _ _ | fault _ => exact .inl h

end Outcome

/-- A call in which candidates are put forward or taken away. -/
def Call.isArbitration : Call → Bool
  | .nominate _ | .remove _ => true
  | .clearFaults | .setStrict _ | .choose _ => false

namespace Registry

/-- What a call comes to on a registry, if it is a nomination or a removal. -/
def outcome (r : Registry) : Call → Option Outcome
  | .nominate n =>
    match n.candidate with
    | .error f => some (.fault f)
    | .ok c =>
      match r.get? c.slot with
      | none => some (.addition c)
      | some o =>
        if c.nominator < o.nominator then
          some (.fault (.nominatorOutOfOrder c.slot.bssid c.slot.networkId c.nominator o.nominator))
        else if c.nominator = o.nominator ∧ o.score < c.score then some (.replacement c o)
        else some (.rejection c o)
  | .remove none => some (.fault .noCandidate)
  | .remove (some c) =>
    if r.get? c.slot = some c then some (.removal c)
    else some (.fault (.staleCandidate c.slot.bssid c.slot.networkId))
  | .clearFaults | .setStrict _ | .choose _ => none

/-- The fault in a call on a registry, if there is one. -/
def fault? (r : Registry) (call : Call) : Option Fault :=
  (r.outcome call).bind Outcome.fault?

/-- What an outcome leaves of a registry, and how the call is answered. -/
def settle (r : Registry) : Outcome → Effect (Except SelectionError Bool)
  | .addition c =>
    { registry := { r.seat c with tally := r.tally.addition }
      answer := .ok true
      journal := [.added c.slot c.nominator c.score] }
  | .replacement c o =>
    { registry := { r.seat c with tally := r.tally.replacement }
      answer := .ok true
      journal := [.replaced c.slot c.score o.score] }
  | .rejection c o =>
    { registry := { r with tally := r.tally.rejection }
      answer := .ok false
      journal := [.kept c.slot c.nominator c.score o.score] }
  | .removal c =>
    { registry := { r with occupants := r.occupants.erase c.slot, tally := r.tally.removal }
      answer := .ok true
      journal := [.removed c.slot] }
  | .fault f => r.fail f

/-! ## When a call comes to what -/

section Inversion

variable {r : Registry} {call : Call} {c o : Candidate}

theorem outcome_eq_addition_iff :
    r.outcome call = some (.addition c) ↔
      ∃ n, call = .nominate n ∧ n.candidate = .ok c ∧ r.get? c.slot = none := by
  unfold outcome
  grind

theorem outcome_eq_replacement_iff :
    r.outcome call = some (.replacement c o) ↔
      ∃ n, call = .nominate n ∧ n.candidate = .ok c ∧ r.get? c.slot = some o ∧
        c.nominator = o.nominator ∧ o.score < c.score := by
  unfold outcome
  grind

theorem outcome_eq_rejection_iff :
    r.outcome call = some (.rejection c o) ↔
      ∃ n, call = .nominate n ∧ n.candidate = .ok c ∧ r.get? c.slot = some o ∧
        (o.nominator < c.nominator ∨ c.nominator = o.nominator ∧ c.score ≤ o.score) := by
  unfold outcome
  grind

theorem outcome_eq_removal_iff :
    r.outcome call = some (.removal c) ↔ call = .remove (some c) ∧ r.get? c.slot = some c := by
  unfold outcome
  grind

theorem outcome_remove_of_ne (h : r.get? c.slot ≠ some c) :
    r.outcome (.remove (some c)) =
      some (.fault (.staleCandidate c.slot.bssid c.slot.networkId)) := by
  rw [outcome, if_neg h]

/-- A candidate that enters its slot was put forward in the call. -/
theorem candidate_of_entrant? {out : Outcome} (ho : r.outcome call = some out)
    (hc : out.entrant? = some c) : ∃ n, call = .nominate n ∧ n.candidate = .ok c := by
  cases out with
  | addition d =>
    cases hc
    obtain ⟨n, hn, hd, -⟩ := outcome_eq_addition_iff.mp ho
    exact ⟨n, hn, hd⟩
  | replacement d _ =>
    cases hc
    obtain ⟨n, hn, hd, -⟩ := outcome_eq_replacement_iff.mp ho
    exact ⟨n, hn, hd⟩
  | rejection _ _ | removal _ | fault _ => cases hc

end Inversion

/-! ## A call does what its outcome says -/

/-- Among candidates whose nominators are in order, those that are not better are the later
and the lower ones. -/
theorem not_better_iff {i j : UInt32} {s t : Int32} (h : ¬ i < j) :
    (j < i ∨ s ≤ t) ↔ ¬ (i = j ∧ t < s) := by
  rw [← UInt32.toNat_inj, UInt32.lt_iff_toNat_lt, Int32.lt_iff_toInt_lt, Int32.le_iff_toInt_le]
  rw [UInt32.lt_iff_toNat_lt] at h
  omega

theorem consider_eq_settle {r : Registry} {n : Nomination} {c : Candidate} {o : Outcome}
    (hc : n.candidate = .ok c) (h : r.outcome (.nominate n) = some o) :
    r.consider c = r.settle o := by
  rw [outcome, hc] at h
  dsimp only at h
  rw [consider]
  cases hg : r.get? c.slot with
  | none =>
    rw [hg] at h
    cases h
    rfl
  | some occupant =>
    rw [hg] at h
    dsimp only at h
    rw [Verdict.of]
    split_ifs at h ⊢ with early later better better
    · cases h; rfl
    · exact absurd better ((not_better_iff early).mp later)
    · cases h; rfl
    · cases h; rfl
    · exact absurd ((not_better_iff early).mpr better) later

/-- A nomination or a removal does what its outcome says. -/
theorem perform_eq_settle {r : Registry} {call : Call} {o : Outcome}
    (h : r.outcome call = some o) : r.perform call = (r.settle o).map .outcome := by
  cases call with
  | nominate n =>
    rw [perform, nominate]
    cases hc : n.candidate with
    | error f =>
      rw [outcome, hc] at h
      cases h
      rfl
    | ok c => exact congrArg (Effect.map Reply.outcome) (consider_eq_settle hc h)
  | remove c? =>
    rw [perform]
    cases c? with
    | none => cases h; rfl
    | some c =>
      rw [outcome] at h
      rw [remove]
      split_ifs at h ⊢ <;> cases h <;> rfl
  | clearFaults | setStrict _ | choose _ => cases h

/-! ## What an outcome does -/

@[simp] theorem get?_settle (r : Registry) (o : Outcome) (slot : Slot) :
    (r.settle o).registry.get? slot = o.occupant slot (r.get? slot) := by
  cases o with
  | addition c | replacement c _ => exact r.get?_seat c slot
  | removal c => exact r.occupants.get?_erase c.slot slot
  | rejection _ _ | fault _ => rfl

@[simp] theorem tally_settle (r : Registry) (o : Outcome) :
    (r.settle o).registry.tally = o.count r.tally := by
  cases o <;> rfl

@[simp] theorem settings_settle (r : Registry) (o : Outcome) :
    (r.settle o).registry.settings = r.settings := by
  cases o <;> rfl

@[simp] theorem lastFault_settle (r : Registry) (o : Outcome) :
    (r.settle o).registry.lastFault = o.fault?.or r.lastFault := by
  cases o <;> rfl

@[simp] theorem faultCount_settle (r : Registry) (o : Outcome) :
    (r.settle o).registry.faultCount =
      if o.fault?.isSome then r.faultCount + 1 else r.faultCount := by
  cases o <;> rfl

@[simp] theorem answer_settle (r : Registry) (o : Outcome) :
    (r.settle o).answer = o.answer r.settings.strict := by
  cases o <;> rfl

/-! ## What the outcome depends on -/

/-- The outcome of a call depends on the occupants alone. -/
theorem outcome_congr {r s : Registry} (h : ∀ slot, r.get? slot = s.get? slot) (call : Call) :
    r.outcome call = s.outcome call := by
  cases call with
  | nominate n => simp only [outcome, h]
  | remove c? => cases c? <;> simp only [outcome, h]
  | clearFaults | setStrict _ | choose _ => rfl

theorem outcome_isSome (r : Registry) (call : Call) :
    (r.outcome call).isSome = call.isArbitration := by
  unfold outcome
  cases call with
  | nominate n =>
    dsimp only
    split
    · rfl
    · split
      · rfl
      · split_ifs <;> rfl
  | remove c? =>
    cases c? with
    | none => rfl
    | some c => dsimp only; split_ifs <;> rfl
  | clearFaults | setStrict _ | choose _ => rfl

/-- A call without an outcome leaves the occupants and the tally. -/
theorem perform_of_outcome_eq_none {r : Registry} {call : Call} (h : r.outcome call = none) :
    (r.perform call).registry.occupants = r.occupants ∧
      (r.perform call).registry.tally = r.tally := by
  have := outcome_isSome r call
  cases call with
  | nominate _ | remove _ => rw [h] at this; cases this
  | clearFaults | setStrict _ | choose _ => exact ⟨rfl, rfl⟩

end Registry

end WifiArbiter
