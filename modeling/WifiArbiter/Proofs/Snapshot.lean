import WifiArbiter.Proofs.Strictness

/-!
# Snapshots

A snapshot of a registry lists all its candidates, in whatever order. A candidate is removed just
where it is the one in its slot, and its removal touches no other slot. So the candidates of a
snapshot can be removed one after the other: each is still in its slot when its turn comes, those
whose turn has not come stay where they are, and in the end there is nothing left. Whoever goes
through the same snapshot once more finds every candidate stale.

Results:
* `Registry.answer_remove_eq_iff`: which candidates are removed.
* `Registry.Holds.outcome_of_mem_steps`, `run_eq`: candidates that are in their slots are removed
  one after the other, and nothing but their removal is counted.
* `Registry.Holds.run_append`, `get?_run`, `perm_run`: which candidates are left then.
* `Registry.forall₂_steps_of_ne`: candidates that are not in their slots are stale, one and all.
* `Registry.snapshot_run`: one removal, and the removal of a snapshot, in every state of every run.
-/

namespace WifiArbiter

/-- The calls to remove candidates, one after the other. -/
def removals (cs : List Candidate) : List Call :=
  cs.map fun c => .remove (some c)

/-- The registry has the candidates in their slots, and no two of them are for one slot. -/
structure Registry.Holds (r : Registry) (cs : List Candidate) : Prop where
  nodup : (cs.map Candidate.slot).Nodup
  get?_eq : ∀ c ∈ cs, r.get? c.slot = some c

namespace Registry

/-! ## One removal -/

section Removal

variable {r : Registry} {c : Candidate}

theorem remove_of_get?_eq (h : r.get? c.slot = some c) :
    r.remove (some c) = r.settle (.removal c) := by
  rw [remove, if_pos h]
  rfl

theorem remove_of_get?_ne (h : r.get? c.slot ≠ some c) :
    r.remove (some c) = r.fail (.staleCandidate c.slot.bssid c.slot.networkId) := by
  rw [remove, if_neg h]

/-- A removal is done just where the candidate is the one in its slot. -/
theorem answer_remove_eq_iff : (r.remove (some c)).answer = .ok true ↔ r.get? c.slot = some c := by
  constructor
  · intro h
    by_contra hne
    rw [remove_of_get?_ne hne, fail] at h
    split_ifs at h
    · cases h
    · exact Bool.false_ne_true (Except.ok.inj h)
  · intro h
    rw [remove_of_get?_eq h, answer_settle]
    rfl

theorem registry_perform_remove (h : r.get? c.slot = some c) :
    (r.perform (.remove (some c))).registry = (r.settle (.removal c)).registry := by
  rw [perform, remove_of_get?_eq h]
  rfl

theorem run_removals_cons (h : r.get? c.slot = some c) (cs : List Candidate) :
    (r.run (removals (c :: cs))).registry =
      ((r.settle (.removal c)).registry.run (removals cs)).registry := by
  rw [← registry_perform_remove h]
  rfl

end Removal

/-! ## Candidates in their slots -/

namespace Holds

variable {r : Registry} {c : Candidate} {cs ds : List Candidate}

theorem head (h : r.Holds (c :: cs)) : r.get? c.slot = some c :=
  h.get?_eq c List.mem_cons_self

/-- The removal of a candidate leaves the others in their slots. -/
theorem tail (h : r.Holds (c :: cs)) : (r.settle (.removal c)).registry.Holds cs := by
  have hnodup := h.nodup
  rw [List.map_cons, List.nodup_cons] at hnodup
  refine ⟨hnodup.2, fun d hd => ?_⟩
  have hne : d.slot ≠ c.slot := fun heq => hnodup.1 (heq ▸ List.mem_map_of_mem hd)
  rw [get?_settle, Outcome.occupant, if_neg hne]
  exact h.get?_eq d (List.mem_cons_of_mem _ hd)

theorem of_append_left (h : r.Holds (cs ++ ds)) : r.Holds cs :=
  ⟨h.nodup.sublist ((List.sublist_append_left cs ds).map _),
    fun c hc => h.get?_eq c (List.mem_append_left _ hc)⟩

/-- The removal of some candidates leaves the others in their slots. -/
theorem run_append (h : r.Holds (cs ++ ds)) : (r.run (removals cs)).registry.Holds ds := by
  induction cs generalizing r with
  | nil => exact h
  | cons c cs ih =>
    rw [run_removals_cons h.head]
    exact ih h.tail

/-- Every call comes to the removal of a candidate. -/
theorem outcome_of_mem_steps (h : r.Holds cs) {s : Step} (hs : s ∈ r.steps (removals cs)) :
    ∃ c ∈ cs, s.outcome = some (.removal c) := by
  induction cs generalizing r with
  | nil => cases hs
  | cons c cs ih =>
    rcases List.mem_cons.mp hs with rfl | hs
    · exact ⟨c, List.mem_cons_self, outcome_eq_removal_iff.mpr ⟨rfl, h.head⟩⟩
    · rw [registry_perform_remove h.head] at hs
      obtain ⟨d, hd, ho⟩ := ih h.tail hs
      exact ⟨d, List.mem_cons_of_mem _ hd, ho⟩

/-- The slots of the candidates are empty then, and the others are as before. -/
theorem get?_run (h : r.Holds cs) (slot : Slot) :
    (r.run (removals cs)).registry.get? slot =
      if slot ∈ cs.map Candidate.slot then none else r.get? slot := by
  induction cs generalizing r with
  | nil => rfl
  | cons c cs ih =>
    rw [run_removals_cons h.head, ih h.tail, get?_settle, Outcome.occupant]
    by_cases hslot : slot = c.slot <;> simp [hslot]

/-- Nothing has changed but the occupants and the number of removals. -/
theorem run_eq (h : r.Holds cs) :
    (r.run (removals cs)).registry =
      { r with
        occupants := (r.run (removals cs)).registry.occupants
        tally := { r.tally with removals := r.tally.removals + .ofNat cs.length } } := by
  induction cs generalizing r with
  | nil => simp [removals, run]
  | cons c cs ih =>
    have hcount : r.tally.removals + 1 + .ofNat cs.length =
        r.tally.removals + .ofNat (c :: cs).length := by
      rw [List.length_cons, UInt64.ofNat_add, UInt64.add_assoc, UInt64.add_comm 1]
      rfl
    rw [run_removals_cons h.head, ih h.tail, ← hcount]
    rfl

/-- The candidates are those that were removed and those that are left. -/
theorem perm_run (h : r.Holds cs) :
    (cs ++ (r.run (removals cs)).registry.candidates).Perm r.candidates := by
  induction cs generalizing r with
  | nil => exact .refl _
  | cons c cs ih =>
    rw [run_removals_cons h.head]
    exact ((ih h.tail).cons c).trans (Table.perm_values_erase h.head)

end Holds

/-- A coherent registry has the candidates of a snapshot in their slots. -/
theorem IsCoherent.holds {r : Registry} (hr : r.IsCoherent) {cs : List Candidate}
    (h : cs.Perm r.candidates) : r.Holds cs :=
  ⟨(h.map _).nodup_iff.mpr hr.nodup_slots, fun _ hc => hr.get?_of_mem (h.mem_iff.mp hc)⟩

/-! ## Stale candidates -/

/-- Where none of the candidates is in its slot, every removal is at fault, since none of them
changes what is in the slots. -/
theorem forall₂_steps_of_ne {r : Registry} {cs : List Candidate}
    (h : ∀ c ∈ cs, r.get? c.slot ≠ some c) :
    List.Forall₂ (fun s c => s.fault? = some (.staleCandidate c.slot.bssid c.slot.networkId))
      (r.steps (removals cs)) cs := by
  induction cs generalizing r with
  | nil => exact .nil
  | cons c cs ih =>
    obtain ⟨hc, hcs⟩ := List.forall_mem_cons.mp h
    have ho : Step.outcome ⟨r, .remove (some c)⟩ =
        some (.fault (.staleCandidate c.slot.bssid c.slot.networkId)) := outcome_remove_of_ne hc
    refine .cons (Step.fault?_eq_some_iff.mpr ho) (ih fun d hd => ?_)
    have hkept := Step.get?_after_of_outcome ho d.slot
    exact fun heq => hcs d hd (hkept.symm.trans heq)

/-! ## Snapshots -/

/-- In every state of every run, the removal of a candidate is done just where the candidate is the
one in its slot. It then empties that slot alone and is counted, and nothing else changes;
otherwise the candidate is reported as stale, and the occupants stay. So all the candidates there
are can be removed one after the other, in any order: no call has a fault; at each point of it, the
candidates whose turn has not come are those that are left, and are in their slots; in the end the
registry is empty, and as many removals more are counted as there were candidates; and where the
same calls are made again, each candidate is reported as stale. -/
theorem snapshot_run (settings : Settings) (signals : Option SignalHistory) (calls : List Call) :
    let r := ((fresh settings signals).run calls).registry
    (∀ c, let e := r.remove (some c)
      (e.answer = .ok true ↔ r.get? c.slot = some c) ∧
      (r.get? c.slot = some c →
        e.registry = { r with
          occupants := e.registry.occupants
          tally := { r.tally with removals := r.tally.removals + 1 } } ∧
        e.registry.get? c.slot = none ∧
        ∀ slot, slot ≠ c.slot → e.registry.get? slot = r.get? slot) ∧
      (r.get? c.slot ≠ some c →
        let f := Fault.staleCandidate c.slot.bssid c.slot.networkId
        e.answer = (if r.settings.strict then .error (.fault f) else .ok false) ∧
        e.registry = { r with
          lastFault := some f
          faultCount := r.faultCount + 1
          tally := { r.tally with faults := r.tally.faults + 1 } })) ∧
    ∀ snapshot, snapshot.Perm r.candidates →
      (∀ s ∈ r.steps (removals snapshot), s.reply = .outcome (.ok true) ∧ s.fault? = none) ∧
      (∀ gone rest, gone ++ rest = snapshot →
        let left := (r.run (removals gone)).registry
        left.candidates.Perm rest ∧
        (∀ c ∈ rest, left.get? c.slot = some c ∧ r.get? c.slot = some c) ∧
        (∀ slot, left.get? slot =
          if slot ∈ gone.map Candidate.slot then none else r.get? slot) ∧
        left = { r with
          occupants := left.occupants
          tally := { r.tally with removals := r.tally.removals + .ofNat gone.length } }) ∧
      let left := (r.run (removals snapshot)).registry
      left.size = 0 ∧
      left.tally = { r.tally with removals := r.tally.removals + .ofNat r.size } ∧
      List.Forall₂ (fun s c => s.Reports (.staleCandidate c.slot.bssid c.slot.networkId))
        (left.steps (removals snapshot)) snapshot := by
  intro r
  have hr : r.IsCoherent := isCoherent_run settings signals calls
  refine ⟨fun c => ⟨answer_remove_eq_iff, fun h => ?_, fun h => ?_⟩, fun snapshot hsnapshot => ?_⟩
  · rw [remove_of_get?_eq h]
    refine ⟨rfl, ?_, fun slot hslot => ?_⟩
    · rw [get?_settle, Outcome.occupant, if_pos rfl]
    · rw [get?_settle, Outcome.occupant, if_neg hslot]
  · rw [remove_of_get?_ne h]
    exact ⟨rfl, rfl⟩
  · have hall : r.Holds snapshot := hr.holds hsnapshot
    refine ⟨fun s hs => ?_, fun gone rest hsplit => ?_, ?_, ?_, ?_⟩
    · obtain ⟨c, -, ho⟩ := hall.outcome_of_mem_steps hs
      exact ⟨Step.reply_of_outcome ho, Step.fault?_of_outcome ho⟩
    · subst hsplit
      have hgone : r.Holds gone := hall.of_append_left
      refine ⟨?_, fun c hc => ⟨?_, ?_⟩, hgone.get?_run, hgone.run_eq⟩
      · exact (List.perm_append_left_iff gone).mp (hgone.perm_run.trans hsnapshot.symm)
      · exact hall.run_append.get?_eq c hc
      · exact hall.get?_eq c (List.mem_append_right _ hc)
    · have hperm := hall.perm_run.length_eq
      rw [List.length_append, hsnapshot.length_eq, length_candidates, length_candidates] at hperm
      exact Nat.add_eq_left.mp hperm
    · rw [hall.run_eq, ← length_candidates, hsnapshot.length_eq]
    · have hgone : ∀ c ∈ snapshot, (r.run (removals snapshot)).registry.get? c.slot ≠ some c := by
        intro c hc
        rw [hall.get?_run, if_pos (List.mem_map_of_mem hc)]
        exact (Option.some_ne_none c).symm
      exact (forall₂_steps_of_ne hgone).imp fun _ _ => Step.reports_of_fault

/-- Two candidates, removed in the order in which they came, and a third that was replaced. -/
theorem snapshot_run_atHome :
    let guest : Nomination := { Nomination.atHome 0 30 with saved := some (.psk ⟨2⟩ "home") }
    let calls : List Call := [.nominate (.atHome 0 10), .nominate (.atHome 0 20), .nominate guest]
    let r := ((fresh {} none).run calls).registry
    let c := Candidate.atHome 0 20
    let old := Candidate.atHome 0 10
    let snapshot := r.candidates.reverse
    let gone := snapshot.take 1
    let left := (r.run (removals snapshot)).registry
    snapshot.length = 2 ∧ snapshot.Perm r.candidates ∧ gone ++ snapshot.drop 1 = snapshot ∧
    r.get? c.slot = some c ∧ (r.remove (some c)).registry.get? c.slot = none ∧
    r.get? old.slot ≠ some old ∧ (r.remove (some old)).answer = .ok false ∧
    (∀ s ∈ r.steps (removals snapshot), s.fault? = none) ∧
    (r.run (removals gone)).registry.candidates.Perm (snapshot.drop 1) ∧ left.size = 0 ∧
    List.Forall₂ (fun s c => s.Reports (.staleCandidate c.slot.bssid c.slot.networkId))
      (left.steps (removals snapshot)) snapshot := by
  intro guest calls r c old snapshot gone left
  obtain ⟨hremove, hsnapshot⟩ := snapshot_run {} none calls
  have hc : r.get? c.slot = some c := by decide
  have hold : r.get? old.slot ≠ some old := by decide
  have hperm : snapshot.Perm r.candidates := List.reverse_perm _
  have hsplit : gone ++ snapshot.drop 1 = snapshot := List.take_append_drop 1 snapshot
  obtain ⟨-, hempties, -⟩ := hremove c
  obtain ⟨-, -, hstale⟩ := hremove old
  obtain ⟨hsteps, hpart, hsize, -, hagain⟩ := hsnapshot snapshot hperm
  exact ⟨by decide, hperm, hsplit, hc, (hempties hc).2.1, hold, (hstale hold).1,
    fun s hs => (hsteps s hs).2, (hpart gone _ hsplit).1, hsize, hagain⟩

end Registry

end WifiArbiter
