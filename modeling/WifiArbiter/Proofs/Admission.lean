import WifiArbiter.Proofs.Coherence

/-!
# Admission

What becomes of a nomination, on any registry whatever. What may be wrong with the nomination itself
is listed in the order in which it is looked for; only where none of it is found does the occupant
of the slot decide. The list is complete and its cases exclude each other, and each case says all
that the nomination does.

Results:
* `Nomination.candidate_eq_error_iff`: the fault in a nomination is its flaw.
* `Registry.exists_admits`, `Registry.Admits.unique`: every nomination comes to one thing.
* `Registry.Admits.nominate_eq`: it then does what this outcome says.
* `Registry.nominate_admission`: what the outcome is, the answer, and all that has changed.
-/

namespace WifiArbiter

/-! ## Flaws -/

namespace Nomination

/-- What is wrong with a nomination in itself. Each flaw counts only where those before it are not
found. -/
inductive HasFlaw (n : Nomination) : Fault → Prop where
  | noSavedNetwork (hsaved : n.saved = none) : n.HasFlaw .noSavedNetwork
  | noSighting {saved : SavedNetwork} (hsaved : n.saved = some saved)
      (hsighting : n.sighting = none) : n.HasFlaw .noSighting
  | noScanResult {saved : SavedNetwork} {seen : Timestamp} (hsaved : n.saved = some saved)
      (hsighting : n.sighting = some ⟨none, seen⟩) : n.HasFlaw .noScanResult
  | malformedBssid {saved : SavedNetwork} {scan : ScanResult} {seen : Timestamp}
      {cause : AddressError} (hsaved : n.saved = some saved)
      (hsighting : n.sighting = some ⟨some scan, seen⟩)
      (hparse : MacAddress.parse scan.bssid = .error cause) :
      n.HasFlaw (.malformedBssid scan.bssid cause)
  | networkMismatch {saved : SavedNetwork} {scan : ScanResult} {seen : Timestamp}
      {bssid : MacAddress} (hsaved : n.saved = some saved)
      (hsighting : n.sighting = some ⟨some scan, seen⟩)
      (hparse : MacAddress.parse scan.bssid = .ok bssid) (hne : saved.logical ≠ scan.logical) :
      n.HasFlaw (.networkMismatch saved.logical scan.logical)

/-- The fault in a nomination is its flaw. -/
theorem candidate_eq_error_iff {n : Nomination} {f : Fault} :
    n.candidate = .error f ↔ n.HasFlaw f := by
  constructor
  · intro h
    unfold candidate at h
    split at h
    · rename_i hsaved
      cases h
      exact .noSavedNetwork hsaved
    · rename_i hsaved hsighting
      cases h
      exact .noSighting hsaved hsighting
    · rename_i saved sighting hsaved hsighting
      obtain ⟨result, seen⟩ := sighting
      dsimp only at h
      split at h
      · cases h
        exact .noScanResult hsaved hsighting
      · split at h
        · rename_i hparse
          cases h
          exact .malformedBssid hsaved hsighting hparse
        · rename_i hparse
          split_ifs at h with hlogical
          cases h
          exact .networkMismatch hsaved hsighting hparse hlogical
  · intro h
    cases h with
    | noSavedNetwork hsaved => simp only [candidate, hsaved]
    | noSighting hsaved hsighting => simp only [candidate, hsaved, hsighting]
    | noScanResult hsaved hsighting => simp only [candidate, hsaved, hsighting]
    | malformedBssid hsaved hsighting hparse => simp only [candidate, hsaved, hsighting, hparse]
    | networkMismatch hsaved hsighting hparse hne =>
      simp only [candidate, hsaved, hsighting, hparse, hne, ↓reduceIte]

end Nomination

/-! ## Outcomes -/

namespace Registry

/-- What a nomination comes to on a registry. A flaw in the nomination itself goes before all that
the occupant of its slot may decide. -/
inductive Admits (r : Registry) (n : Nomination) : Outcome → Prop where
  | flawed {f : Fault} (hflaw : n.HasFlaw f) : r.Admits n (.fault f)
  | early {c occupant : Candidate} (hc : n.Proposes c) (hget : r.get? c.slot = some occupant)
      (hindex : n.nominator < occupant.nominator) :
      r.Admits n (.fault (.nominatorOutOfOrder c.slot.bssid c.slot.networkId n.nominator
        occupant.nominator))
  | late {c occupant : Candidate} (hc : n.Proposes c) (hget : r.get? c.slot = some occupant)
      (hindex : occupant.nominator < n.nominator) : r.Admits n (.rejection c occupant)
  | notBetter {c occupant : Candidate} (hc : n.Proposes c) (hget : r.get? c.slot = some occupant)
      (hindex : n.nominator = occupant.nominator) (hscore : n.score ≤ occupant.score) :
      r.Admits n (.rejection c occupant)
  | better {c occupant : Candidate} (hc : n.Proposes c) (hget : r.get? c.slot = some occupant)
      (hindex : n.nominator = occupant.nominator) (hscore : occupant.score < n.score) :
      r.Admits n (.replacement c occupant)
  | first {c : Candidate} (hc : n.Proposes c) (hget : r.get? c.slot = none) :
      r.Admits n (.addition c)

variable {r : Registry} {n : Nomination} {o : Outcome}

/-- What a nomination comes to is its outcome. -/
theorem Admits.outcome_eq (h : r.Admits n o) : r.outcome (.nominate n) = some o := by
  cases h with
  | flawed hflaw => simp only [outcome, Nomination.candidate_eq_error_iff.mpr hflaw]
  | early hc hget hindex =>
    have hcandidate := Nomination.candidate_eq_ok_iff.mpr hc
    rw [hc.nominator] at hindex ⊢
    simp only [outcome, hcandidate, hget, hindex, ↓reduceIte]
  | late hc hget hindex =>
    rw [hc.nominator] at hindex
    exact outcome_eq_rejection_iff.mpr
      ⟨n, rfl, Nomination.candidate_eq_ok_iff.mpr hc, hget, .inl hindex⟩
  | notBetter hc hget hindex hscore =>
    rw [hc.nominator] at hindex
    rw [hc.score] at hscore
    exact outcome_eq_rejection_iff.mpr
      ⟨n, rfl, Nomination.candidate_eq_ok_iff.mpr hc, hget, .inr ⟨hindex, hscore⟩⟩
  | better hc hget hindex hscore =>
    rw [hc.nominator] at hindex
    rw [hc.score] at hscore
    exact outcome_eq_replacement_iff.mpr
      ⟨n, rfl, Nomination.candidate_eq_ok_iff.mpr hc, hget, hindex, hscore⟩
  | first hc hget =>
    exact outcome_eq_addition_iff.mpr ⟨n, rfl, Nomination.candidate_eq_ok_iff.mpr hc, hget⟩

/-- Every nomination comes to something. -/
theorem exists_admits (r : Registry) (n : Nomination) : ∃ o, r.Admits n o := by
  cases hcandidate : n.candidate with
  | error f => exact ⟨_, .flawed (Nomination.candidate_eq_error_iff.mp hcandidate)⟩
  | ok c =>
    have hc := Nomination.candidate_eq_ok_iff.mp hcandidate
    cases hget : r.get? c.slot with
    | none => exact ⟨_, .first hc hget⟩
    | some occupant =>
      by_cases hearly : n.nominator < occupant.nominator
      · exact ⟨_, .early hc hget hearly⟩
      by_cases hlate : occupant.nominator < n.nominator
      · exact ⟨_, .late hc hget hlate⟩
      have hindex : n.nominator = occupant.nominator :=
        UInt32.le_antisymm (UInt32.not_lt.mp hlate) (UInt32.not_lt.mp hearly)
      by_cases hscore : n.score ≤ occupant.score
      · exact ⟨_, .notBetter hc hget hindex hscore⟩
      · exact ⟨_, .better hc hget hindex (Int32.not_le.mp hscore)⟩

/-- A nomination comes to one thing only. -/
theorem Admits.unique {o' : Outcome} (h : r.Admits n o) (h' : r.Admits n o') : o = o' :=
  Option.some.inj (h.outcome_eq.symm.trans h'.outcome_eq)

/-- A nomination does what it comes to. -/
theorem Admits.nominate_eq (h : r.Admits n o) : r.nominate n = r.settle o := by
  have ho := h.outcome_eq
  rw [nominate]
  cases hcandidate : n.candidate with
  | error f =>
    rw [outcome, hcandidate] at ho
    cases ho
    rfl
  | ok c => exact consider_eq_settle hcandidate ho

/-- A candidate that enters its slot is there then, and all other slots are as before. -/
theorem get?_settle_of_entrant? {c : Candidate} (h : o.entrant? = some c) :
    (r.settle o).registry.get? c.slot = some c ∧
      ∀ slot, slot ≠ c.slot → (r.settle o).registry.get? slot = r.get? slot := by
  cases o with
  | addition d | replacement d _ =>
    cases h
    refine ⟨?_, fun slot hslot => ?_⟩
    · rw [get?_settle, Outcome.occupant, if_pos rfl]
    · rw [get?_settle, Outcome.occupant, if_neg hslot]
  | rejection _ _ | removal _ | fault _ => cases h

/-- Every nomination on every registry comes to exactly one thing. A fault is answered as the
settings say, and is all that is recorded. A candidate that is turned away is counted, and nothing
else has changed. A candidate that enters its slot, empty or not, is counted as an addition or a
replacement; it is in its slot then, and nothing else has changed. -/
theorem nominate_admission (r : Registry) (n : Nomination) :
    let e := r.nominate n
    (∃! o, r.Admits n o) ∧
    (∀ f, r.Admits n (.fault f) →
      e.answer = (if r.settings.strict then .error (.fault f) else .ok false) ∧
      e.registry = { r with
        lastFault := some f
        faultCount := r.faultCount + 1
        tally := { r.tally with faults := r.tally.faults + 1 } }) ∧
    (∀ c occupant, r.Admits n (.rejection c occupant) →
      e.answer = .ok false ∧
      e.registry = { r with tally := { r.tally with rejections := r.tally.rejections + 1 } }) ∧
    (∀ c, r.Admits n (.addition c) →
      e.answer = .ok true ∧
      e.registry = { r with
        occupants := e.registry.occupants
        tally := { r.tally with additions := r.tally.additions + 1 } } ∧
      e.registry.get? c.slot = some c ∧
      ∀ slot, slot ≠ c.slot → e.registry.get? slot = r.get? slot) ∧
    ∀ c occupant, r.Admits n (.replacement c occupant) →
      e.answer = .ok true ∧
      e.registry = { r with
        occupants := e.registry.occupants
        tally := { r.tally with replacements := r.tally.replacements + 1 } } ∧
      e.registry.get? c.slot = some c ∧
      ∀ slot, slot ≠ c.slot → e.registry.get? slot = r.get? slot := by
  intro e
  refine ⟨?_, fun f h => ?_, fun c occupant h => ?_, fun c h => ?_, fun c occupant h => ?_⟩
  · obtain ⟨o, ho⟩ := exists_admits r n
    exact ⟨o, ho, fun o' ho' => ho'.unique ho⟩
  · have he : e = r.settle (.fault f) := h.nominate_eq
    rw [he]
    exact ⟨rfl, rfl⟩
  · have he : e = r.settle (.rejection c occupant) := h.nominate_eq
    rw [he]
    exact ⟨rfl, rfl⟩
  · have he : e = r.settle (.addition c) := h.nominate_eq
    rw [he]
    exact ⟨rfl, rfl, get?_settle_of_entrant? rfl⟩
  · have he : e = r.settle (.replacement c occupant) := h.nominate_eq
    rw [he]
    exact ⟨rfl, rfl, get?_settle_of_entrant? rfl⟩

/-- An earlier nominator that comes later is at fault, though its score is the better one. -/
theorem nominate_admission_atHome :
    let c := Candidate.atHome 1 10
    let r := ((default : Registry).nominate (.atHome 1 10)).registry
    let f := Fault.nominatorOutOfOrder c.slot.bssid c.slot.networkId 0 1
    r.Admits (.atHome 0 20) (.fault f) ∧
    (r.nominate (.atHome 0 20)).registry.lastFault = some f := by
  intro c r f
  have hc : (Nomination.atHome 0 20).Proposes (.atHome 0 20) :=
    Nomination.candidate_eq_ok_iff.mp (by decide)
  have hget : r.get? c.slot = some c := by decide
  have hf : r.Admits (.atHome 0 20) (.fault f) := .early hc hget (by decide)
  obtain ⟨-, hfault, -⟩ := nominate_admission r (.atHome 0 20)
  exact ⟨hf, by rw [(hfault f hf).2]⟩

/-- The address is looked into before the networks are compared. -/
example :
    let scan := { ScanResult.atHome with bssid := "home" }
    let n := { Nomination.atHome 0 10 with
      saved := some (.sae ⟨1⟩ "home"), sighting := some ⟨some scan, ⟨1000⟩⟩ }
    (default : Registry).outcome (.nominate n) =
      some (.fault (.malformedBssid "home" (.wrongOctetCount 1))) := by decide

end Registry

end WifiArbiter
