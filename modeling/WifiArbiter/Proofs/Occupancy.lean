import Mathlib.Data.Set.Card
import WifiArbiter.Proofs.Coherence

/-!
# Occupancy

Who is in a slot, told from the history of calls alone. The nominations that
stand for a slot are those for it since the last removal from it. The nominator
who speaks first among them has the slot, and of that nominator's nominations the
first with the best score leads: it proposes the occupant.

Results:
* `Leads.unique`: at most one nomination leads.
* `Occupies.concat`: what one more nomination does to the lead and to the occupant.
* `Registry.get?_perform_nominate`: who is in a slot after a nomination.
* `Registry.occupies_run`: after every run, the leading nominations propose the occupants.
* `Registry.occupancy_run`: the same in full, with the number of occupants.
-/

namespace WifiArbiter

/-! ## Leading nominations -/

/-- The nomination is of the nominator who speaks first, and is the first with the best score
of those of this nominator. -/
def Leads (n : Nomination) (ns : List Nomination) : Prop :=
  ∃ before after, ns = before ++ n :: after ∧
    (∀ m ∈ ns.head?, m.nominator = n.nominator) ∧
    (∀ m ∈ before, m.nominator = n.nominator → m.score < n.score) ∧
    ∀ m ∈ after, m.nominator = n.nominator → m.score ≤ n.score

namespace Leads

variable {n m : Nomination} {ns : List Nomination}

theorem singleton (n : Nomination) : Leads n [n] :=
  ⟨[], [], rfl, by simp, by simp, by simp⟩

theorem ne_nil (h : Leads n ns) : ns ≠ [] := by
  obtain ⟨before, after, rfl, -⟩ := h
  simp

theorem head?_concat (h : Leads n ns) (m : Nomination) : (ns ++ [m]).head? = ns.head? := by
  cases ns with
  | nil => exact absurd rfl h.ne_nil
  | cons _ _ => rfl

/-- The scores of the nominator who has the slot are at most that of the leading nomination. -/
theorem score_le (h : Leads n ns) (hm : m ∈ ns) (hi : m.nominator = n.nominator) :
    m.score ≤ n.score := by
  obtain ⟨before, after, rfl, -, hb, ha⟩ := h
  rcases List.mem_append.mp hm with hm | hm
  · exact Int32.le_of_lt (hb m hm hi)
  · rcases List.mem_cons.mp hm with rfl | hm
    · exact Int32.le_refl _
    · exact ha m hm hi

/-- A nomination that is no better, or of another nominator, leaves the lead. -/
theorem concat (h : Leads n ns) (hm : m.nominator = n.nominator → m.score ≤ n.score) :
    Leads n (ns ++ [m]) := by
  have hfirst := h.head?_concat m
  obtain ⟨before, after, hns, hh, hb, ha⟩ := h
  refine ⟨before, after ++ [m], by rw [hns]; simp, by rwa [hfirst], hb, ?_⟩
  intro k hk hi
  rcases List.mem_append.mp hk with hk | hk
  · exact ha k hk hi
  · obtain rfl := List.mem_singleton.mp hk
    exact hm hi

/-- A better nomination of the same nominator takes the lead. -/
theorem concat_better (h : Leads n ns) (hi : m.nominator = n.nominator)
    (hs : n.score < m.score) : Leads m (ns ++ [m]) := by
  refine ⟨ns, [], rfl, ?_, ?_, by simp⟩
  · rw [h.head?_concat, hi]
    obtain ⟨-, -, -, hh, -⟩ := h
    exact hh
  · intro k hk hk'
    exact Int32.lt_of_le_of_lt (h.score_le hk (hk'.trans hi)) hs

/-- At most one nomination leads. -/
theorem unique (hn : Leads n ns) (hm : Leads m ns) : n = m := by
  have hi : n.nominator = m.nominator := by
    obtain ⟨first, hf⟩ : ∃ first, first ∈ ns.head? := by
      rw [← List.cons_head_tail hn.ne_nil]
      exact ⟨_, rfl⟩
    obtain ⟨-, -, -, h, -⟩ := hn
    obtain ⟨-, -, -, k, -⟩ := hm
    exact (h first hf).symm.trans (k first hf)
  have hs : n.score = m.score := by
    apply Int32.le_antisymm
    · obtain ⟨_, _, h, -⟩ := hn
      exact hm.score_le (by rw [h]; simp) hi
    · obtain ⟨_, _, h, -⟩ := hm
      exact hn.score_le (by rw [h]; simp) hi.symm
  obtain ⟨b₁, a₁, h₁, -, hb₁, -⟩ := hn
  obtain ⟨b₂, a₂, h₂, -, hb₂, -⟩ := hm
  -- Were one before the other, its score would be lower.
  rw [h₁] at h₂
  rcases List.append_eq_append_iff.mp h₂ with ⟨l, hl, hr⟩ | ⟨l, hl, hr⟩
  · cases l with
    | nil => exact (List.cons.inj hr).1
    | cons k l =>
      obtain ⟨rfl, -⟩ := List.cons.inj hr
      exact absurd (hb₂ n (by rw [hl]; simp) hi) (hs ▸ Int32.lt_irrefl)
  · cases l with
    | nil => exact (List.cons.inj hr).1.symm
    | cons k l =>
      obtain ⟨rfl, -⟩ := List.cons.inj hr
      exact absurd (hb₁ m (by rw [hl]; simp) hi.symm) (hs ▸ Int32.lt_irrefl)

end Leads

/-! ## Nominations that stand -/

/-- A nomination with nothing wrong in it, for a slot. -/
def Nomination.IsFor (n : Nomination) (slot : Slot) : Prop :=
  ∃ c, n.Proposes c ∧ c.slot = slot

theorem Nomination.isFor_iff {n : Nomination} {slot : Slot} :
    n.IsFor slot ↔ ∃ c, n.candidate = .ok c ∧ c.slot = slot := by
  simp only [IsFor, candidate_eq_ok_iff]

instance (n : Nomination) (slot : Slot) : Decidable (n.IsFor slot) :=
  match h : n.candidate with
  | .ok c => decidable_of_iff (c.slot = slot) (by simp [Nomination.isFor_iff, h])
  | .error _ => isFalse (by simp [Nomination.isFor_iff, h])

namespace Step

/-- The nomination for a slot in a step, if it is one. -/
def nominationFor? (slot : Slot) (s : Step) : Option Nomination :=
  match s.call with
  | .nominate n => if n.IsFor slot then some n else none
  | _ => none

/-- Whether the candidate in a slot was removed in a step. -/
def isRemovalFrom (slot : Slot) (s : Step) : Bool :=
  match s.call with
  | .remove (some c) => c.slot = slot && s.isDone
  | _ => false

end Step

/-- The nominations for a slot since the last removal from it. -/
def standing (slot : Slot) (history : List Step) : List Nomination :=
  since (Step.isRemovalFrom slot) (Step.nominationFor? slot) history

/-- A step that is neither a removal from a slot nor a nomination for it. -/
theorem standing_concat_of_not {slot : Slot} {s : Step} (past : List Step)
    (hr : s.isRemovalFrom slot = false) (hn : s.nominationFor? slot = none) :
    standing slot (past ++ [s]) = standing slot past := by
  rw [standing, since_concat, hr, hn, ← standing]
  simp

/-- The nomination in a call, if it is one. -/
def Call.nomination? : Call → Option Nomination
  | .nominate n => some n
  | _ => none

/-- The nominations among calls. -/
def nominations (calls : List Call) : List Nomination :=
  calls.filterMap Call.nomination?

theorem mem_nominations_iff {n : Nomination} {calls : List Call} :
    n ∈ nominations calls ↔ .nominate n ∈ calls := by
  rw [nominations, List.mem_filterMap]
  constructor
  · rintro ⟨call, hcall, hn⟩
    cases call with
    | nominate m =>
      cases hn
      exact hcall
    | remove _ | clearFaults | setStrict _ | choose _ => cases hn
  · intro h
    exact ⟨_, h, rfl⟩

/-- Where nothing is removed, all nominations for a slot stand. -/
theorem standing_steps {calls : List Call} (h : ∀ call ∈ calls, call.isRemoval = false)
    (r : Registry) (slot : Slot) :
    standing slot (r.steps calls) = (nominations calls).filter (·.IsFor slot) := by
  have hnone : ∀ s ∈ r.steps calls, s.isRemovalFrom slot = false := by
    rintro ⟨before, call⟩ hs
    have hc : call ∈ calls := Registry.call_mem_of_mem_steps hs
    cases call with
    | remove _ => cases h _ hc
    | nominate _ | clearFaults | setStrict _ | choose _ => rfl
  have hfind : Step.nominationFor? slot =
      (fun call => call.nomination?.filter (·.IsFor slot)) ∘ Step.call := by
    funext s
    obtain ⟨before, call⟩ := s
    cases call with
    | nominate n => simp [Step.nominationFor?, Call.nomination?, Option.filter]
    | remove _ | clearFaults | setStrict _ | choose _ => rfl
  rw [standing, since, List.rtakeWhile_eq_self_iff.mpr (by simpa using hnone), hfind,
    ← List.filterMap_map, Registry.map_call_steps, nominations, List.filter_filterMap]

/-! ## The occupant of a slot -/

/-- An occupant is proposed by the leading nomination, and an empty slot has no nomination. -/
def Occupies (ns : List Nomination) : Option Candidate → Prop
  | none => ns = []
  | some c => ∃ n, Leads n ns ∧ n.Proposes c

theorem Occupies.eq_none_iff {ns : List Nomination} {o : Option Candidate} (h : Occupies ns o) :
    o = none ↔ ns = [] := by
  cases o with
  | none => exact ⟨fun _ => h, fun _ => rfl⟩
  | some c =>
    obtain ⟨n, hn, -⟩ := h
    simp [hn.ne_nil]

theorem Occupies.eq_some_iff {ns : List Nomination} {o : Option Candidate} (h : Occupies ns o)
    {c : Candidate} : o = some c ↔ ∃ n, Leads n ns ∧ n.Proposes c := by
  constructor
  · rintro rfl
    exact h
  · rintro ⟨n, hn, hp⟩
    cases o with
    | none => exact absurd h hn.ne_nil
    | some d =>
      obtain ⟨m, hm, hpm⟩ := h
      obtain rfl := hm.unique hn
      rw [← Nomination.candidate_eq_ok_iff] at hp hpm
      exact congrArg some (Except.ok.inj (hpm.symm.trans hp))

/-- The candidate of one more nomination takes the slot if it is the first, or better than the
occupant and from the same nominator. -/
theorem Occupies.concat {ns : List Nomination} {o : Option Candidate} {n : Nomination}
    {c : Candidate} (h : Occupies ns o) (hp : n.Proposes c) :
    Occupies (ns ++ [n])
      (if ∀ d ∈ o, c.nominator = d.nominator ∧ d.score < c.score then some c else o) := by
  cases o with
  | none =>
    have hns : ns = [] := h
    rw [hns, if_pos (by simp)]
    exact ⟨n, Leads.singleton n, hp⟩
  | some d =>
    obtain ⟨m, hm, hpm⟩ := h
    split_ifs with hb
    · obtain ⟨hi, hs⟩ := hb d rfl
      rw [← hp.nominator, ← hpm.nominator] at hi
      rw [← hp.score, ← hpm.score] at hs
      exact ⟨n, hm.concat_better hi hs, hp⟩
    · refine ⟨m, hm.concat ?_, hpm⟩
      intro hi
      rw [hp.nominator, hpm.nominator] at hi
      rw [hp.score, hpm.score]
      by_contra hs
      apply hb
      rintro _ ⟨⟩
      exact ⟨hi, Int32.not_le.mp hs⟩

/-- A set that is listed without repetition has as many members as the list. -/
theorem encard_eq_length {α : Type} {s : Set α} {l : List α} (hl : l.Nodup)
    (h : ∀ a, a ∈ s ↔ a ∈ l) : s.encard = l.length := by
  classical
  have hs : s = ↑l.toFinset := Set.ext fun a => (h a).trans (by simp)
  rw [hs, Set.encard_coe_eq_coe_finsetCard, List.toFinset_card_of_nodup hl]

/-- A table has as many keys as its size. -/
theorem Table.encard_keys {κ ν : Type} [DecidableEq κ] (t : Table κ ν) :
    {k | t.get? k ≠ none}.encard = t.size := by
  have hkeys (k : κ) : k ∈ {k | t.get? k ≠ none} ↔ k ∈ t.entries.map Prod.fst := by
    rw [Set.mem_ofPred_eq, Option.ne_none_iff_exists', List.mem_map]
    simp only [Prod.exists, exists_and_right, exists_eq_right, Table.mem_entries_iff]
  rw [encard_eq_length t.nodup_keys hkeys, List.length_map, Table.size]

namespace Registry

/-- All slots of a registry without candidates are empty. -/
theorem get?_of_size_eq_zero {r : Registry} (h : r.size = 0) (slot : Slot) :
    r.get? slot = none := by
  rw [get?, Table.get?, List.length_eq_zero_iff.mp h]
  rfl

/-- Registries in which the same slots are empty have as many candidates. -/
theorem size_congr {r s : Registry} (h : ∀ slot, r.get? slot = none ↔ s.get? slot = none) :
    r.size = s.size := by
  have hkeys : {slot | r.occupants.get? slot ≠ none} = {slot | s.occupants.get? slot ≠ none} :=
    Set.ext fun slot => not_congr (h slot)
  have hsize : (r.occupants.size : ℕ∞) = s.occupants.size := by
    rw [← Table.encard_keys, hkeys, Table.encard_keys]
  exact ENat.natCast_inj.mp hsize

/-- A nomination puts its candidate into its slot unless the occupant is of another nominator or
has a score at least as good. -/
theorem get?_perform_nominate {n : Nomination} {c : Candidate} (hc : n.candidate = .ok c)
    (r : Registry) (slot : Slot) :
    (r.perform (.nominate n)).registry.get? slot =
      if slot = c.slot ∧ ∀ o ∈ r.get? c.slot, c.nominator = o.nominator ∧ o.score < c.score
      then some c else r.get? slot := by
  have hn : (r.perform (.nominate n)).registry = (r.consider c).registry := by
    rw [perform, nominate, hc]
    rfl
  have hseated : (Verdict.of c (r.get? c.slot)).isSeated = true ↔
      ∀ o ∈ r.get? c.slot, c.nominator = o.nominator ∧ o.score < c.score := by
    cases r.get? c.slot with
    | none => simp [Verdict.of, Verdict.isSeated]
    | some o =>
      simp only [Option.mem_some_iff, forall_eq', Verdict.of]
      split_ifs with early later
      · simp only [Verdict.isSeated, Bool.false_eq_true, false_iff, not_and]
        intro hi
        exact absurd early (hi ▸ UInt32.lt_irrefl _)
      · simpa [Verdict.isSeated] using (not_better_iff early).mp later
      · simpa [Verdict.isSeated] using (not_congr (not_better_iff early)).mp later
  simp only [hn, get?_consider, hseated]

/-- A removal that is done empties the slot of its candidate, and any other changes nothing. -/
theorem isRemovalFrom_remove (r : Registry) (c : Candidate) (slot : Slot) :
    Step.isRemovalFrom slot ⟨r, .remove (some c)⟩ = true ↔
      slot = c.slot ∧ r.get? c.slot = some c := by
  have hdone : Step.isDone ⟨r, .remove (some c)⟩ = true ↔ r.get? c.slot = some c := by
    by_cases hg : r.get? c.slot = some c
    · have ho : Step.outcome ⟨r, .remove (some c)⟩ = _ := outcome_eq_removal_iff.mpr ⟨rfl, hg⟩
      simp [Step.isDone_of_outcome ho, Outcome.isDone, hg]
    · have ho : Step.outcome ⟨r, .remove (some c)⟩ = _ := outcome_remove_of_ne hg
      simp [Step.isDone_of_outcome ho, Outcome.isDone, hg]
  simp only [Step.isRemovalFrom, Bool.and_eq_true, decide_eq_true_eq, hdone]
  exact and_congr_left' eq_comm

section Step

variable {past : List Step} {r : Registry} {slot : Slot}

theorem occupies_nominate (n : Nomination) (h : Occupies (standing slot past) (r.get? slot)) :
    Occupies (standing slot (past ++ [⟨r, .nominate n⟩]))
      ((r.perform (.nominate n)).registry.get? slot) := by
  have hr : Step.isRemovalFrom slot ⟨r, .nominate n⟩ = false := rfl
  by_cases hfor : n.IsFor slot
  · have hns : standing slot (past ++ [⟨r, .nominate n⟩]) = standing slot past ++ [n] := by
      rw [standing, since_concat, hr, ← standing]
      simp [Step.nominationFor?, hfor]
    obtain ⟨c, hp, rfl⟩ := hfor
    have hc : n.candidate = .ok c := Nomination.candidate_eq_ok_iff.mpr hp
    rw [hns, get?_perform_nominate hc]
    simpa only [true_and] using h.concat hp
  · have hns : standing slot (past ++ [⟨r, .nominate n⟩]) = standing slot past :=
      standing_concat_of_not past hr (by simp [Step.nominationFor?, hfor])
    rw [hns]
    cases hc : n.candidate with
    | error f =>
      rw [perform, nominate, hc]
      exact h
    | ok c =>
      have hslot : slot ≠ c.slot := fun e =>
        hfor (Nomination.isFor_iff.mpr ⟨c, hc, e.symm⟩)
      rwa [get?_perform_nominate hc, if_neg (by simp [hslot])]

theorem occupies_remove (c : Candidate) (h : Occupies (standing slot past) (r.get? slot)) :
    Occupies (standing slot (past ++ [⟨r, .remove (some c)⟩]))
      ((r.perform (.remove (some c))).registry.get? slot) := by
  have hget : (r.perform (.remove (some c))).registry.get? slot =
      if slot = c.slot ∧ r.get? c.slot = some c then none else r.get? slot :=
    r.get?_remove_some c slot
  rw [hget, standing, since_concat, ← standing]
  simp only [isRemovalFrom_remove]
  split_ifs with hr
  · rfl
  · simpa [Step.nominationFor?] using h

/-- Every step keeps the occupants those that the leading nominations propose. -/
theorem occupies_after {s : Step} (h : Occupies (standing slot past) (s.before.get? slot)) :
    Occupies (standing slot (past ++ [s])) (s.after.get? slot) := by
  obtain ⟨r, call⟩ := s
  cases call with
  | nominate n => exact occupies_nominate n h
  | remove c? =>
    cases c? with
    | none => rwa [standing_concat_of_not past rfl rfl]
    | some c => exact occupies_remove c h
  | clearFaults | setStrict _ | choose _ => rwa [standing_concat_of_not past rfl rfl]

end Step

/-- After every run on a registry in which a slot is empty, the leading nomination for it proposes
the occupant. -/
theorem occupies_run_of_empty {r : Registry} {slot : Slot} (h : r.get? slot = none)
    (calls : List Call) :
    Occupies (standing slot (r.steps calls)) ((r.run calls).registry.get? slot) :=
  run_induction (P := fun past r => Occupies (standing slot past) (r.get? slot))
    (by rw [h]; rfl) (fun _ _ h => occupies_after h) calls

/-- After every run, the leading nominations propose the occupants. -/
theorem occupies_run (settings : Settings) (signals : Option SignalHistory) (calls : List Call)
    (slot : Slot) :
    Occupies (standing slot ((fresh settings signals).steps calls))
      (((fresh settings signals).run calls).registry.get? slot) :=
  occupies_run_of_empty (get?_fresh settings signals slot) calls

/-- After every run of calls on a fresh registry, a slot is empty just when no nomination stands
for it, and otherwise holds the candidate that the leading nomination proposes. So there are as
many candidates as slots for which a nomination stands. -/
theorem occupancy_run (settings : Settings) (signals : Option SignalHistory) (calls : List Call) :
    let r := ((fresh settings signals).run calls).registry
    let nominations := fun slot => standing slot ((fresh settings signals).steps calls)
    (∀ slot, r.get? slot = none ↔ nominations slot = []) ∧
    (∀ slot c, r.get? slot = some c ↔ ∃ n, Leads n (nominations slot) ∧ n.Proposes c) ∧
    {slot | nominations slot ≠ []}.encard = r.size := by
  intro r nominations
  have hocc : ∀ slot, Occupies (nominations slot) (r.get? slot) :=
    occupies_run settings signals calls
  refine ⟨fun slot => (hocc slot).eq_none_iff, fun slot c => (hocc slot).eq_some_iff, ?_⟩
  calc {slot | nominations slot ≠ []}.encard
      = {slot | r.occupants.get? slot ≠ none}.encard := by
        congr 1
        ext slot
        exact (not_congr (hocc slot).eq_none_iff).symm
    _ = r.size := r.occupants.encard_keys

end Registry

end WifiArbiter
