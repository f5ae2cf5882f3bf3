import WifiArbiter.Proofs.Locality
import WifiArbiter.Proofs.Occupancy

/-!
# Shuffles

Where there are only nominations, the nominator who speaks first for a slot keeps it, and
in the end the slot holds a candidate with the best of that nominator's scores. Neither
depends on the order in which each nominator goes through its scan results. So a nominator
may shuffle its nominations, and those for different slots may be shuffled as well, as long
as the nominators keep their order in each slot.

Results:
* `Registry.map_nominator_get?_run`: a slot is held by the nominator who speaks first for it.
* `Registry.isTop_run`: its candidate has the best of that nominator's scores.
* `Registry.count_fault_run`: the faults are the nominations with something wrong in them and
  those of a nominator before the first.
* `firstNominator?_reorder`: a shuffle leaves the nominators who speak first.
* `Registry.shuffle_run`: a run of shuffled nominations, in full.
-/

namespace WifiArbiter

/-- The nominator who speaks first for a slot. -/
def firstNominator? (ns : List Nomination) (slot : Slot) : Option UInt32 :=
  (ns.find? (·.IsFor slot)).map Nomination.nominator

/-- Two nominations are of different nominators and for the same slot. -/
def Nomination.Rivals (m n : Nomination) : Prop :=
  m.nominator ≠ n.nominator ∧ (Call.nominate m).SharesSlot (.nominate n)

instance : DecidableRel Nomination.Rivals := fun m n =>
  inferInstanceAs
    (Decidable (m.nominator ≠ n.nominator ∧ (Call.nominate m).SharesSlot (.nominate n)))

theorem Nomination.isFor_iff_slot? {n : Nomination} {slot : Slot} :
    n.IsFor slot ↔ (Call.nominate n).slot? = some slot := by
  rw [isFor_iff, Call.slot?]
  cases n.candidate <;> simp [Except.toOption]

theorem Nomination.sharesSlot_iff {m n : Nomination} :
    (Call.nominate m).SharesSlot (.nominate n) ↔ ∃ slot, m.IsFor slot ∧ n.IsFor slot := by
  simp only [isFor_iff_slot?]
  rfl

/-- The candidate is that of a nomination of the nominator who speaks first for a slot, and none of
this nominator has a better score. -/
structure IsTop (ns : List Nomination) (slot : Slot) (c : Candidate) : Prop where
  first : firstNominator? ns slot = some c.nominator
  mem : ∃ n ∈ ns, n.IsFor slot ∧ n.Proposes c
  score_le : ∀ m ∈ ns, m.IsFor slot → m.nominator = c.nominator → m.score ≤ c.score

/-! ## First nominators -/

theorem Leads.firstNominator? {n : Nomination} {ns : List Nomination} {slot : Slot}
    (h : Leads n (ns.filter (·.IsFor slot))) :
    WifiArbiter.firstNominator? ns slot = some n.nominator := by
  have hne := h.ne_nil
  obtain ⟨-, -, -, hfirst, -⟩ := h
  rw [List.head?_filter] at hfirst
  rw [WifiArbiter.firstNominator?]
  cases hf : ns.find? (·.IsFor slot) with
  | none => exact absurd (List.filter_eq_nil_iff.mpr (List.find?_eq_none.mp hf)) hne
  | some m => exact congrArg some (hfirst m hf)

/-- A shuffle that keeps rivals in order leaves the nominators who speak first. -/
theorem firstNominator?_reorder {ns : List Nomination} {σ : Equiv.Perm (Fin ns.length)}
    (hσ : KeepsOrder Nomination.Rivals ns σ) (slot : Slot) :
    firstNominator? (reorder ns σ) slot = firstNominator? ns slot := by
  have hmem : ∀ m, m ∈ reorder ns σ ↔ m ∈ ns := fun _ => (reorder_perm ns σ).mem_iff
  rw [firstNominator?, firstNominator?]
  cases hn : ns.find? (·.IsFor slot) with
  | none =>
    have hnone : (reorder ns σ).find? (·.IsFor slot) = none := by
      rw [List.find?_eq_none] at hn ⊢
      exact fun m hm => hn m ((hmem m).mp hm)
    rw [hnone]
  | some n =>
    cases hm : (reorder ns σ).find? (·.IsFor slot) with
    | none =>
      rw [List.find?_eq_none] at hm
      have hfor := List.find?_some hn
      exact absurd hfor (hm n ((hmem n).mpr (List.mem_of_find?_eq_some hn)))
    | some m =>
      have hnot : ¬ m.Rivals n := hσ.not_related_of_find? (fun _ h => h.1 rfl) hn hm
      have hform : m.IsFor slot := by simpa using List.find?_some hm
      have hforn : n.IsFor slot := by simpa using List.find?_some hn
      have hshare := Nomination.sharesSlot_iff.mpr ⟨slot, hform, hforn⟩
      exact congrArg some (not_not.mp fun hne => hnot ⟨hne, hshare⟩)

/-! ## Faults -/

/-- Whether there is something wrong in a nomination, or its nominator is before the one who has
its slot. -/
def Nomination.fails (holder : Slot → Option UInt32) (n : Nomination) : Bool :=
  match n.candidate with
  | .error _ => true
  | .ok c => (holder c.slot).any (c.nominator < ·)

theorem Registry.isSome_fault?_nominate (r : Registry) (n : Nomination) :
    (r.fault? (.nominate n)).isSome =
      n.fails fun slot => (r.get? slot).map Candidate.nominator := by
  rw [fault?, outcome, Nomination.fails]
  cases n.candidate with
  | error f => rfl
  | ok c =>
    dsimp only
    cases r.get? c.slot with
    | none => rfl
    | some o =>
      dsimp only
      split_ifs with hlt <;> simp [Outcome.fault?, hlt]

/-- Whether a nomination fails is settled when it is made. -/
theorem Nomination.fails_append_cons (before after : List Nomination) (n : Nomination) :
    n.fails (firstNominator? (before ++ n :: after)) = n.fails (firstNominator? before) := by
  rw [fails, fails]
  cases hc : n.candidate with
  | error f => rfl
  | ok c =>
    have hfor : n.IsFor c.slot := isFor_iff.mpr ⟨c, hc, rfl⟩
    have hi : n.nominator = c.nominator := (candidate_eq_ok_iff.mp hc).nominator
    dsimp only
    rw [firstNominator?, List.find?_append, List.find?_cons_of_pos (by simpa using hfor),
      firstNominator?]
    cases before.find? (·.IsFor c.slot) with
    | none => simp [hi]
    | some m => rfl

namespace IsTop

variable {ns ms : List Nomination} {slot : Slot} {c d : Candidate}

theorem perm (h : IsTop ns slot c) (hp : ms.Perm ns)
    (hf : WifiArbiter.firstNominator? ms slot = WifiArbiter.firstNominator? ns slot) :
    IsTop ms slot c := by
  refine ⟨hf.trans h.first, ?_, fun m hm => h.score_le m (hp.mem_iff.mp hm)⟩
  obtain ⟨n, hn, hfor⟩ := h.mem
  exact ⟨n, hp.mem_iff.mpr hn, hfor⟩

theorem nominator_eq (hc : IsTop ns slot c) (hd : IsTop ns slot d) : d.nominator = c.nominator :=
  Option.some.inj (hd.first.symm.trans hc.first)

theorem score_le_score (hc : IsTop ns slot c) (hd : IsTop ns slot d) : c.score ≤ d.score := by
  obtain ⟨n, hn, hfor, hp⟩ := hc.mem
  rw [← hp.score]
  exact hd.score_le n hn hfor (hp.nominator.trans (hc.nominator_eq hd).symm)

theorem score_eq (hc : IsTop ns slot c) (hd : IsTop ns slot d) : d.score = c.score :=
  Int32.le_antisymm (hd.score_le_score hc) (hc.score_le_score hd)

/-- Where the scores of each nominator for a slot tell its nominations apart, only one candidate
is at the top. -/
theorem eq_of_scores (hc : IsTop ns slot c) (hd : IsTop ns slot d)
    (h : ∀ m ∈ ns, ∀ n ∈ ns, (Call.nominate m).SharesSlot (.nominate n) →
      m.nominator = n.nominator → m.score = n.score → m = n) : d = c := by
  obtain ⟨m, hm, hfor, hpm⟩ := hd.mem
  obtain ⟨n, hn, hfor', hpn⟩ := hc.mem
  have hmn : m = n := by
    apply h m hm n hn (Nomination.sharesSlot_iff.mpr ⟨slot, hfor, hfor'⟩)
    · rw [hpm.nominator, hpn.nominator, hc.nominator_eq hd]
    · rw [hpm.score, hpn.score, hc.score_eq hd]
  rw [hmn, ← Nomination.candidate_eq_ok_iff] at hpm
  rw [← Nomination.candidate_eq_ok_iff, hpm] at hpn
  exact Except.ok.inj hpn

end IsTop

/-! ## Runs of nominations -/

namespace Registry

variable {r : Registry} (hr : ∀ slot, r.get? slot = none)

include hr

theorem occupies_run_nominations (ns : List Nomination) (slot : Slot) :
    Occupies (ns.filter (·.IsFor slot)) ((r.run (ns.map .nominate)).registry.get? slot) := by
  have hns : nominations (ns.map .nominate) = ns := by
    rw [nominations, List.filterMap_map]
    exact List.filterMap_some
  have hremoval : ∀ call ∈ ns.map Call.nominate, call.isRemoval = false :=
    List.forall_mem_map.mpr fun _ _ => rfl
  have hocc := occupies_run_of_empty (hr slot) (ns.map .nominate)
  rwa [standing_steps hremoval, hns] at hocc

/-- The candidate in a slot is that of the nominator who speaks first, with the best score. -/
theorem isTop_run {ns : List Nomination} {slot : Slot} {c : Candidate}
    (h : (r.run (ns.map .nominate)).registry.get? slot = some c) : IsTop ns slot c := by
  have hocc := occupies_run_nominations hr ns slot
  rw [h] at hocc
  obtain ⟨n, hn, hp⟩ := hocc
  have hmem : n ∈ ns.filter (·.IsFor slot) := by
    obtain ⟨before, after, hns, -⟩ := hn
    rw [hns]
    simp
  have hfilter : ∀ m, m ∈ ns.filter (·.IsFor slot) ↔ m ∈ ns ∧ m.IsFor slot := by
    intro m
    rw [List.mem_filter, decide_eq_true_iff]
  refine ⟨?_, ⟨n, ((hfilter n).mp hmem).1, ((hfilter n).mp hmem).2, hp⟩, fun m hm hfor hi => ?_⟩
  · rw [hn.firstNominator?, hp.nominator]
  · rw [← hp.score]
    exact hn.score_le ((hfilter m).mpr ⟨hm, hfor⟩) (hi.trans hp.nominator.symm)

/-- A slot is held by the nominator who speaks first for it. -/
theorem map_nominator_get?_run (ns : List Nomination) (slot : Slot) :
    ((r.run (ns.map .nominate)).registry.get? slot).map Candidate.nominator =
      firstNominator? ns slot := by
  cases h : (r.run (ns.map .nominate)).registry.get? slot with
  | some c => exact (isTop_run hr h).first.symm
  | none =>
    have hocc := occupies_run_nominations hr ns slot
    rw [h] at hocc
    have hnil : ns.filter (·.IsFor slot) = [] := hocc
    rw [firstNominator?, ← List.head?_filter, hnil]
    rfl

/-- The faults are the nominations with something wrong in them, and those of a nominator before
the one who speaks first for the slot. -/
theorem count_fault_run (ns : List Nomination) :
    (kinds (r.steps (ns.map .nominate))).count .fault =
      ns.countP (·.fails (firstNominator? ns)) := by
  have hfaults : (r.steps (ns.map .nominate)).map (fun s => s.fault?.isSome) =
      ns.map (·.fails (firstNominator? ns)) := by
    apply List.ext_getElem?
    intro i
    rw [List.getElem?_map, List.getElem?_map, getElem?_steps, List.getElem?_map]
    cases hn : ns[i]? with
    | none => rfl
    | some n =>
      have hsplit : ns.take i ++ n :: ns.drop (i + 1) = ns := by
        obtain ⟨hi, hget⟩ := List.getElem?_eq_some_iff.mp hn
        rw [← hget, ← List.drop_eq_getElem_cons hi, List.take_append_drop]
      have hholder : (fun slot => ((r.run ((ns.map .nominate).take i)).registry.get? slot).map
          Candidate.nominator) = firstNominator? (ns.take i) := by
        funext slot
        rw [← List.map_take]
        exact map_nominator_get?_run hr _ slot
      have hn' := n.fails_append_cons (ns.take i) (ns.drop (i + 1))
      rw [hsplit, ← hholder, ← isSome_fault?_nominate] at hn'
      exact congrArg some hn'.symm
  calc (kinds (r.steps (ns.map .nominate))).count .fault
      = (r.steps (ns.map .nominate)).countP (fun s => s.fault?.isSome) := by
        rw [countP_kinds Step.isSome_fault?]
        exact List.count_eq_countP
    _ = ((r.steps (ns.map .nominate)).map (fun s => s.fault?.isSome)).countP id := by
        rw [List.countP_map]
        rfl
    _ = ns.countP (·.fails (firstNominator? ns)) := by
        rw [hfaults, List.countP_map]
        rfl

omit hr

/-- What is not an addition or a fault is a replacement or is turned away. -/
theorem count_run_nominations (r : Registry) (ns : List Nomination) :
    (kinds (r.steps (ns.map .nominate))).count .addition +
      ((kinds (r.steps (ns.map .nominate))).count .replacement +
        (kinds (r.steps (ns.map .nominate))).count .rejection) +
      (kinds (r.steps (ns.map .nominate))).count .fault = ns.length := by
  have hremoval : (kinds (r.steps (ns.map .nominate))).count .removal = 0 :=
    count_removal_steps r (List.forall_mem_map.mpr fun _ _ => rfl)
  have hlength : (kinds (r.steps (ns.map .nominate))).length = ns.length := by
    rw [length_kinds_steps, List.countP_eq_length.mpr (List.forall_mem_map.mpr fun _ _ => rfl),
      List.length_map]
  have hsum := Outcome.Kind.sum_count (kinds (r.steps (ns.map .nominate)))
  omega

/-- Where nothing was before, the candidates are the additions. -/
theorem count_addition_run_nominations {r : Registry} (hr : r.size = 0) (ns : List Nomination) :
    (kinds (r.steps (ns.map .nominate))).count .addition =
      (r.run (ns.map .nominate)).registry.size := by
  have hremoval : (kinds (r.steps (ns.map .nominate))).count .removal = 0 :=
    count_removal_steps r (List.forall_mem_map.mpr fun _ _ => rfl)
  have hsize := size_add_run r (ns.map .nominate)
  omega

/-- Nominations on an empty registry may be shuffled as long as those of different nominators for
a slot keep their order. The same slots are occupied, by candidates of the same nominators with the
same scores; the additions and the faults are as many, and so are the replacements and rejections
together. If the scores of each nominator for a slot are different, the candidates are the same. -/
theorem shuffle_run {r : Registry} (hr : r.size = 0) {ns : List Nomination}
    {σ : Equiv.Perm (Fin ns.length)} (hσ : KeepsOrder Nomination.Rivals ns σ) :
    let before := (r.run (ns.map .nominate)).registry
    let after := (r.run ((reorder ns σ).map .nominate)).registry
    (∀ slot, after.get? slot = none ↔ before.get? slot = none) ∧
    (∀ slot c d, before.get? slot = some c → after.get? slot = some d →
      d.nominator = c.nominator ∧ d.score = c.score) ∧
    after.size = before.size ∧
    after.tally.additions = before.tally.additions ∧
    after.tally.faults = before.tally.faults ∧
    after.faultCount = before.faultCount ∧
    after.tally.replacements + after.tally.rejections =
      before.tally.replacements + before.tally.rejections ∧
    ((∀ m ∈ ns, ∀ n ∈ ns, (Call.nominate m).SharesSlot (.nominate n) →
      m.nominator = n.nominator → m.score = n.score → m = n) →
        ∀ slot, after.get? slot = before.get? slot) := by
  intro before after
  have hempty : ∀ slot, r.get? slot = none := get?_of_size_eq_zero hr
  have hp : (reorder ns σ).Perm ns := reorder_perm ns σ
  have hfirst : firstNominator? (reorder ns σ) = firstNominator? ns :=
    funext (firstNominator?_reorder hσ)
  have hnominator : ∀ slot, (after.get? slot).map Candidate.nominator =
      (before.get? slot).map Candidate.nominator := by
    intro slot
    rw [map_nominator_get?_run hempty, map_nominator_get?_run hempty, hfirst]
  have hnone : ∀ slot, after.get? slot = none ↔ before.get? slot = none := by
    intro slot
    rw [← Option.map_eq_none_iff, hnominator, Option.map_eq_none_iff]
  -- whoever is in a slot after the shuffle is at the top of the nominations before it
  have htop : ∀ {slot c}, before.get? slot = some c → IsTop ns slot c := isTop_run hempty
  have htop' : ∀ {slot d}, after.get? slot = some d → IsTop ns slot d := fun h =>
    (isTop_run hempty h).perm hp.symm (congrFun hfirst.symm _)
  have hsize : after.size = before.size := size_congr hnone
  let ks := kinds (r.steps (ns.map .nominate))
  let ks' := kinds (r.steps ((reorder ns σ).map .nominate))
  have hadditions : ks'.count .addition = ks.count .addition := by
    rw [count_addition_run_nominations hr, count_addition_run_nominations hr]
    exact hsize
  have hfaults : ks'.count .fault = ks.count .fault := by
    rw [count_fault_run hempty, count_fault_run hempty, hfirst]
    exact hp.countP_eq _
  have hothers : ks'.count .replacement + ks'.count .rejection =
      ks.count .replacement + ks.count .rejection := by
    have hsum : ks.count .addition + (ks.count .replacement + ks.count .rejection) +
        ks.count .fault = ns.length := count_run_nominations r ns
    have hsum' : ks'.count .addition + (ks'.count .replacement + ks'.count .rejection) +
        ks'.count .fault = (reorder ns σ).length := count_run_nominations r (reorder ns σ)
    have hlength : (reorder ns σ).length = ns.length := hp.length_eq
    omega
  have htally : ∀ k, ks'.count k = ks.count k → after.tally.of k = before.tally.of k := by
    intro k hk
    rw [of_tally_run, of_tally_run, hk]
  refine ⟨hnone, fun slot c d hc hd => ?_, hsize, htally _ hadditions, htally _ hfaults, ?_, ?_,
    fun hscores slot => ?_⟩
  · exact ⟨(htop hc).nominator_eq (htop' hd), (htop hc).score_eq (htop' hd)⟩
  · rw [faultCount_run r (List.forall_mem_map.mpr fun _ _ => rfl),
      faultCount_run r (List.forall_mem_map.mpr fun _ _ => rfl), hfaults]
  · have h := of_tally_add_run r (ns.map .nominate) .replacement .rejection
    rw [← hothers, ← of_tally_add_run] at h
    exact h.symm
  · cases hc : before.get? slot with
    | none => exact (hnone slot).mpr hc
    | some c =>
      obtain ⟨d, hd⟩ := Option.ne_none_iff_exists'.mp
        (mt (hnone slot).mp (hc ▸ Option.some_ne_none c))
      rw [hd, (htop hc).eq_of_scores (htop' hd) hscores]

/-- The better of two scan results put before the other, and a nomination for another slot put
first. What was a replacement is now turned away, and the candidates are the same. -/
theorem shuffle_run_atHome :
    let other : Nomination := { Nomination.atHome 1 10 with saved := some (.psk ⟨2⟩ "home") }
    let r := fresh {} none
    let ns : List Nomination := [.atHome 0 10, .atHome 0 20, .atHome 1 99, other]
    let σ : Equiv.Perm (Fin 4) := (Equiv.swap 0 3).trans (Equiv.swap 0 2)
    let moved : List Nomination := [other, .atHome 0 20, .atHome 0 10, .atHome 1 99]
    let before := (r.run (ns.map .nominate)).registry
    let after := (r.run (moved.map .nominate)).registry
    r.size = 0 ∧ KeepsOrder Nomination.Rivals ns σ ∧ reorder ns σ = moved ∧
    (∀ m ∈ ns, ∀ n ∈ ns, (Call.nominate m).SharesSlot (.nominate n) →
      m.nominator = n.nominator → m.score = n.score → m = n) ∧
    before.tally.replacements = 1 ∧ after.tally.replacements = 0 ∧
    after.tally.replacements + after.tally.rejections =
      before.tally.replacements + before.tally.rejections ∧
    ∀ slot, after.get? slot = before.get? slot := by
  intro other r ns σ moved before after
  have hr : r.size = 0 := rfl
  have hσ : KeepsOrder Nomination.Rivals ns σ := by decide
  have hscores : ∀ m ∈ ns, ∀ n ∈ ns, (Call.nominate m).SharesSlot (.nominate n) →
      m.nominator = n.nominator → m.score = n.score → m = n := by decide
  obtain ⟨-, -, -, -, -, -, hothers, hsame⟩ := shuffle_run hr hσ
  exact ⟨hr, hσ, rfl, hscores, by decide, by decide, hothers, hsame hscores⟩

end Registry

end WifiArbiter
