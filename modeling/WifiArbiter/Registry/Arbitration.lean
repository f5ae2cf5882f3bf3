import WifiArbiter.Nomination
import WifiArbiter.Registry.Basic

/-!
# Arbitration

How candidates enter the slots of a registry and leave them. The first nominator
to fill a slot keeps it: only a better score from the same nominator puts another
candidate in. A later nominator and a score that is no better are turned away,
and an earlier nominator is a fault.

A candidate is removed only while it is the one in its slot.

Results:
* `Registry.get?_consider`: a candidate is in its slot after its verdict, or
  nothing has changed.
* `Registry.get?_remove_some`: after a removal the slot is empty, or nothing has
  changed.
-/

namespace WifiArbiter

/-- How a candidate fares against the occupant of its slot. -/
inductive Verdict where
  /-- The slot is empty. -/
  | vacant
  /-- The candidate is better, and from the same nominator. -/
  | better (occupant : Candidate)
  /-- The candidate is from a later nominator, or no better. -/
  | rejected (occupant : Candidate)
  /-- The candidate is from an earlier nominator. -/
  | outOfOrder (occupant : Candidate)
deriving DecidableEq

/-- The verdict on a candidate, given the occupant of its slot. -/
def Verdict.of (c : Candidate) : Option Candidate → Verdict
  | none => .vacant
  | some occupant =>
    if c.nominator < occupant.nominator then .outOfOrder occupant
    else if occupant.nominator < c.nominator ∨ c.score ≤ occupant.score then .rejected occupant
    else .better occupant

/-- Whether the candidate goes into the slot. -/
def Verdict.isSeated : Verdict → Bool
  | .vacant | .better _ => true
  | .rejected _ | .outOfOrder _ => false

namespace Registry

/-- The registry with a candidate in its slot. -/
def seat (r : Registry) (c : Candidate) : Registry :=
  { r with occupants := r.occupants.insert c.slot c }

/-- Lets a candidate into its slot, if it fares well against the occupant. -/
def consider (r : Registry) (c : Candidate) : Effect (Except SelectionError Bool) :=
  match Verdict.of c (r.get? c.slot) with
  | .vacant =>
    { registry := { r.seat c with tally := r.tally.addition }
      answer := .ok true
      journal := [.added c.slot c.nominator c.score] }
  | .better occupant =>
    { registry := { r.seat c with tally := r.tally.replacement }
      answer := .ok true
      journal := [.replaced c.slot c.score occupant.score] }
  | .rejected occupant =>
    { registry := { r with tally := r.tally.rejection }
      answer := .ok false
      journal := [.kept c.slot c.nominator c.score occupant.score] }
  | .outOfOrder occupant =>
    r.fail (.nominatorOutOfOrder c.slot.bssid c.slot.networkId c.nominator occupant.nominator)

/-- Takes a nomination. The answer says whether its candidate was put into the slot. -/
def nominate (r : Registry) (n : Nomination) : Effect (Except SelectionError Bool) :=
  match n.candidate with
  | .error f => r.fail f
  | .ok c => r.consider c

/-- Removes a candidate that is the one in its slot. -/
def remove (r : Registry) : Option Candidate → Effect (Except SelectionError Bool)
  | none => r.fail .noCandidate
  | some c =>
    if r.get? c.slot = some c then
      { registry := { r with occupants := r.occupants.erase c.slot, tally := r.tally.removal }
        answer := .ok true
        journal := [.removed c.slot] }
    else r.fail (.staleCandidate c.slot.bssid c.slot.networkId)

/-! ## What a call leaves in the slots -/

theorem get?_seat (r : Registry) (c : Candidate) (slot : Slot) :
    (r.seat c).get? slot = if slot = c.slot then some c else r.get? slot :=
  r.occupants.get?_insert c.slot slot c

/-- A candidate that fares well is in its slot, and all else is as before. -/
theorem get?_consider (r : Registry) (c : Candidate) (slot : Slot) :
    (r.consider c).registry.get? slot =
      if slot = c.slot ∧ (Verdict.of c (r.get? c.slot)).isSeated then some c else r.get? slot := by
  unfold consider
  split <;> rename_i h <;> rw [h]
  · simpa [Verdict.isSeated, get?] using r.get?_seat c slot
  · simpa [Verdict.isSeated, get?] using r.get?_seat c slot
  · simp [Verdict.isSeated, get?]
  · simp [Verdict.isSeated]

/-- A candidate that is the one in its slot leaves it, and all else is as before. -/
theorem get?_remove_some (r : Registry) (c : Candidate) (slot : Slot) :
    (r.remove (some c)).registry.get? slot =
      if slot = c.slot ∧ r.get? c.slot = some c then none else r.get? slot := by
  unfold remove
  dsimp only
  split <;> rename_i h
  · simp only [h, and_true]
    exact r.occupants.get?_erase c.slot slot
  · simp [h]

end Registry

end WifiArbiter
