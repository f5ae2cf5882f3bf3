import WifiArbiter.Proofs.Coherence

/-!
# Balance

The books of a registry: its tally, the number of its candidates, and the faults
since they were cleared, each accounted for by the calls that were made.

Results:
* `Registry.of_tally_run`: a run adds to each count of the tally the number of calls
  that came to that kind of outcome.
* `Registry.size_add_run`: the candidates at the start and the additions are those
  that are left and the removals.
* `Registry.recentFaults_run`: the fault on record is the last of those since they
  were cleared, and the count of faults is their number.
* `Registry.balance_run`: the same, with the calls told apart by their answers.
-/

namespace WifiArbiter

/-! ## Kinds of outcomes -/

/-- The kinds of outcomes. -/
inductive Outcome.Kind where
  | addition
  | replacement
  | rejection
  | removal
  | fault
deriving DecidableEq

/-- The kind of an outcome. -/
def Outcome.kind : Outcome → Kind
  | addition _ => .addition
  | replacement .. => .replacement
  | rejection .. => .rejection
  | removal _ => .removal
  | fault _ => .fault

/-- How often a tally has counted a kind of outcome. -/
def Tally.of (t : Tally) : Outcome.Kind → UInt64
  | .addition => t.additions
  | .replacement => t.replacements
  | .rejection => t.rejections
  | .removal => t.removals
  | .fault => t.faults

/-- A tally is nothing but its counts. -/
theorem Tally.ext_of {t u : Tally} (h : ∀ k, t.of k = u.of k) : t = u := by
  cases t
  cases u
  rw [mk.injEq]
  exact ⟨h .addition, h .replacement, h .rejection, h .removal, h .fault⟩

theorem Tally.of_count (t : Tally) (o : Outcome) (k : Outcome.Kind) :
    (o.count t).of k = if o.kind = k then t.of k + 1 else t.of k := by
  cases o <;> cases k <;> rfl

namespace Outcome.Kind

theorem count_add_count_seated (ks : List Kind) :
    ks.countP (fun k => k = addition ∨ k = replacement) =
      ks.count addition + ks.count replacement := by
  induction ks with
  | nil => rfl
  | cons k ks ih =>
    rw [List.countP_cons, List.count_cons, List.count_cons, ih]
    cases k <;> simp <;> omega

/-- Every outcome is of one of the five kinds. -/
theorem sum_count (ks : List Kind) :
    ks.count addition + ks.count replacement + ks.count rejection + ks.count removal +
      ks.count fault = ks.length := by
  induction ks with
  | nil => rfl
  | cons k ks ih =>
    simp only [List.count_cons, List.length_cons]
    cases k <;> simp <;> omega

end Outcome.Kind

/-! ## Kinds of steps -/

/-- The kind of the outcome of a step, if it has one. -/
def Step.kind? (s : Step) : Option Outcome.Kind :=
  s.outcome.map Outcome.kind

/-- The kinds of the outcomes in a history. -/
def kinds (history : List Step) : List Outcome.Kind :=
  history.filterMap Step.kind?

theorem kinds_concat (past : List Step) (s : Step) :
    kinds (past ++ [s]) = kinds past ++ s.kind?.toList := by
  rw [kinds, List.filterMap_append, ← kinds]
  cases h : s.kind? <;> simp [h]

/-- The faults since they were last cleared. -/
def recentFaults (history : List Step) : List Fault :=
  since (fun s => s.call.isClearing) Step.fault? history

/-- The last fault since the faults were cleared is the last of all, if there is one. -/
theorem getLast?_recentFaults {history : List Step} (h : recentFaults history ≠ []) :
    (recentFaults history).getLast? = (history.filterMap Step.fault?).getLast? := by
  obtain ⟨before, hb⟩ : recentFaults history <:+ history.filterMap Step.fault? :=
    (List.rtakeWhile_suffix _ history).filterMap Step.fault?
  rw [← hb, List.getLast?_append_of_ne_nil _ h]

/-- The steps of some kind of outcome are as many as the kinds of outcomes. -/
theorem countP_kinds {p : Step → Bool} {q : Outcome.Kind → Bool}
    (h : ∀ s, p s = s.kind?.any q) (history : List Step) :
    history.countP p = (kinds history).countP q := by
  induction history with
  | nil => rfl
  | cons s history ih =>
    rw [List.countP_cons, ih, h]
    cases hk : s.kind? with
    | none => simp [kinds, hk]
    | some k => simp [kinds, hk, List.countP_cons]

namespace Step

variable {s : Step} {o : Outcome}

theorem kind?_of_outcome (h : s.outcome = some o) : s.kind? = some o.kind := by
  rw [kind?, h]
  rfl

/-- What is done is done by a nomination if a candidate enters its slot, and else by a removal. -/
theorem entrant?_of_isDone (h : s.outcome = some o) (hd : o.isDone = true) :
    s.call.isNomination = o.entrant?.isSome ∧ s.call.isRemoval = o.entrant?.isNone := by
  cases o with
  | addition _ | replacement _ _ =>
    obtain ⟨n, hn, -⟩ := Registry.candidate_of_entrant? h rfl
    rw [hn]
    exact ⟨rfl, rfl⟩
  | removal _ =>
    rw [(Registry.outcome_eq_removal_iff.mp h).1]
    exact ⟨rfl, rfl⟩
  | rejection _ _ | fault _ => cases hd

theorem isNomination_and_isDone (s : Step) :
    (s.call.isNomination && s.isDone) =
      s.kind?.any fun k => k = .addition ∨ k = .replacement := by
  cases ho : s.outcome with
  | none =>
    rw [isDone_of_none ho, kind?, ho]
    exact Bool.and_false _
  | some o =>
    rw [isDone_of_outcome ho, kind?_of_outcome ho]
    cases o with
    | addition _ | replacement _ _ | removal _ => rw [(entrant?_of_isDone ho rfl).1]; rfl
    | rejection _ _ | fault _ => exact Bool.and_false _

theorem isRemoval_and_isDone (s : Step) :
    (s.call.isRemoval && s.isDone) = s.kind?.any fun k => k = .removal := by
  cases ho : s.outcome with
  | none =>
    rw [isDone_of_none ho, kind?, ho]
    exact Bool.and_false _
  | some o =>
    rw [isDone_of_outcome ho, kind?_of_outcome ho]
    cases o with
    | addition _ | replacement _ _ | removal _ => rw [(entrant?_of_isDone ho rfl).2]; rfl
    | rejection _ _ | fault _ => exact Bool.and_false _

theorem isArbitration_eq (s : Step) : s.call.isArbitration = s.kind?.any fun _ => true := by
  rw [← s.before.outcome_isSome s.call, kind?, outcome]
  cases s.before.outcome s.call <;> rfl

theorem isSome_fault? (s : Step) : s.fault?.isSome = s.kind?.any fun k => k = .fault := by
  cases ho : s.outcome with
  | none =>
    rw [fault?_of_none ho, kind?, ho]
    rfl
  | some o =>
    rw [fault?_of_outcome ho, kind?_of_outcome ho]
    cases o <;> rfl

end Step

/-! ## The books of a run -/

namespace Registry

theorem of_tally_after {s : Step} (k : Outcome.Kind) :
    s.after.tally.of k = s.before.tally.of k + UInt64.ofNat (s.kind?.toList.count k) := by
  cases ho : s.outcome with
  | none =>
    rw [Step.after, (perform_of_outcome_eq_none ho).2, Step.kind?, ho]
    simp
  | some o =>
    rw [Step.after_of_outcome ho, tally_settle, Tally.of_count, Step.kind?_of_outcome ho]
    split_ifs with hk <;> simp [hk]

/-- A run adds to each count of the tally the number of calls that came to that kind of outcome. -/
theorem of_tally_run (r : Registry) (calls : List Call) (k : Outcome.Kind) :
    (r.run calls).registry.tally.of k =
      r.tally.of k + UInt64.ofNat ((kinds (r.steps calls)).count k) := by
  apply run_induction
    (P := fun past s => s.tally.of k = r.tally.of k + UInt64.ofNat ((kinds past).count k))
  · exact (UInt64.add_zero _).symm
  · intro past s h
    rw [of_tally_after, h, kinds_concat, List.count_append, UInt64.ofNat_add, UInt64.add_assoc]

theorem of_tally_add_run (r : Registry) (calls : List Call) (k l : Outcome.Kind) :
    (r.run calls).registry.tally.of k + (r.run calls).registry.tally.of l =
      r.tally.of k + r.tally.of l +
        UInt64.ofNat ((kinds (r.steps calls)).count k + (kinds (r.steps calls)).count l) := by
  rw [of_tally_run, of_tally_run, UInt64.ofNat_add]
  ac_rfl

/-- Each count of the tally is the number of calls that came to that kind of outcome. -/
theorem tally_run (settings : Settings) (signals : Option SignalHistory) (calls : List Call)
    (k : Outcome.Kind) :
    ((fresh settings signals).run calls).registry.tally.of k =
      UInt64.ofNat ((kinds ((fresh settings signals).steps calls)).count k) := by
  have hzero : (fresh settings signals).tally.of k = 0 := by
    rw [tally_fresh]
    cases k <;> rfl
  rw [of_tally_run, hzero, UInt64.zero_add]

/-- Where no faults are forgotten, a run adds the number of its faults to their count. -/
theorem faultCount_run (r : Registry) {calls : List Call}
    (h : ∀ call ∈ calls, call.isClearing = false) :
    (r.run calls).registry.faultCount =
      r.faultCount + UInt64.ofNat ((kinds (r.steps calls)).count .fault) := by
  have hrun : (∀ s ∈ r.steps calls, s.call.isClearing = false) →
      (r.run calls).registry.faultCount =
        r.faultCount + UInt64.ofNat ((kinds (r.steps calls)).count .fault) := by
    apply run_induction (P := fun past s => (∀ t ∈ past, t.call.isClearing = false) →
      s.faultCount = r.faultCount + UInt64.ofNat ((kinds past).count .fault))
    · intro _
      exact (UInt64.add_zero _).symm
    · intro past s ih hpast
      have hs : s.call.isClearing = false := hpast s (by simp)
      have hbefore := ih fun t ht => hpast t (List.mem_append_left _ ht)
      rw [kinds_concat, List.count_append, UInt64.ofNat_add, ← UInt64.add_assoc, ← hbefore]
      cases ho : s.outcome with
      | none =>
        rw [(Step.faults_of_none ho hs).2, Step.kind?, ho]
        exact (UInt64.add_zero _).symm
      | some o =>
        rw [Step.after_of_outcome ho, faultCount_settle, Step.kind?_of_outcome ho]
        cases o <;> simp [Outcome.fault?, Outcome.kind]
  exact hrun fun s hs => h s.call (call_mem_of_mem_steps hs)

/-- A run has as many outcomes as nominations and removals. -/
theorem length_kinds_steps (r : Registry) (calls : List Call) :
    (kinds (r.steps calls)).length = calls.countP Call.isArbitration :=
  calc (kinds (r.steps calls)).length
      = (r.steps calls).countP (fun s => s.call.isArbitration) := by
        rw [countP_kinds Step.isArbitration_eq, List.countP_true]
    _ = ((r.steps calls).map Step.call).countP Call.isArbitration := by
        rw [List.countP_map]
        rfl
    _ = calls.countP Call.isArbitration := by rw [map_call_steps]

/-- Where nothing is to be removed, nothing is. -/
theorem count_removal_steps (r : Registry) {calls : List Call}
    (h : ∀ call ∈ calls, call.isRemoval = false) :
    (kinds (r.steps calls)).count .removal = 0 := by
  have hnone : (r.steps calls).countP (fun s => s.call.isRemoval && s.isDone) = 0 := by
    rw [List.countP_eq_zero]
    intro s hs
    rw [h s.call (call_mem_of_mem_steps hs)]
    exact Bool.false_ne_true
  rw [← hnone, countP_kinds Step.isRemoval_and_isDone]
  exact List.count_eq_countP

/-- An outcome makes the registry larger by an addition and smaller by a removal. -/
theorem size_settle {r : Registry} {call : Call} {o : Outcome} (h : r.outcome call = some o) :
    (r.settle o).registry.size + [o.kind].count .removal =
      r.size + [o.kind].count .addition := by
  cases o with
  | addition c =>
    obtain ⟨_, _, _, hg⟩ := outcome_eq_addition_iff.mp h
    exact Table.size_insert_of_get?_eq_none c hg
  | replacement c d =>
    obtain ⟨_, _, _, hg, _⟩ := outcome_eq_replacement_iff.mp h
    exact Table.size_insert_of_get? c hg
  | removal c =>
    obtain ⟨_, hg⟩ := outcome_eq_removal_iff.mp h
    exact Table.size_erase_of_get? hg
  | rejection _ _ | fault _ => rfl

/-- The candidates at the start and the additions are those that are left and the removals. -/
theorem size_add_run (r : Registry) (calls : List Call) :
    r.size + (kinds (r.steps calls)).count .addition =
      (r.run calls).registry.size + (kinds (r.steps calls)).count .removal := by
  apply run_induction (P := fun past s =>
    r.size + (kinds past).count .addition = s.size + (kinds past).count .removal)
  · rfl
  · intro past s h
    rw [kinds_concat, List.count_append, List.count_append]
    cases ho : s.outcome with
    | none =>
      rw [Step.kind?, ho, size, size, Step.after, (perform_of_outcome_eq_none ho).1, ← size, ← size]
      simpa using h
    | some o =>
      have hsize := size_settle ho
      rw [Step.kind?_of_outcome ho, Step.after_of_outcome ho, Option.toList_some]
      omega

/-- The additions are the candidates that are left and the removals. -/
theorem size_run (settings : Settings) (signals : Option SignalHistory) (calls : List Call) :
    (kinds ((fresh settings signals).steps calls)).count .addition =
      ((fresh settings signals).run calls).registry.size +
        (kinds ((fresh settings signals).steps calls)).count .removal := by
  have hzero : (fresh settings signals).size = 0 := by
    rw [size, occupants_fresh]
    rfl
  rw [← size_add_run, hzero, Nat.zero_add]

/-- The fault on record is the last of those since the faults were cleared, and the count of
faults is their number. -/
theorem recentFaults_run (settings : Settings) (signals : Option SignalHistory)
    (calls : List Call) :
    let r := ((fresh settings signals).run calls).registry
    let faults := recentFaults ((fresh settings signals).steps calls)
    r.lastFault = faults.getLast? ∧ r.faultCount = UInt64.ofNat faults.length := by
  apply run_induction (P := fun past r => r.lastFault = (recentFaults past).getLast? ∧
    r.faultCount = UInt64.ofNat (recentFaults past).length)
  · rw [lastFault_fresh, faultCount_fresh]
    exact ⟨rfl, rfl⟩
  · intro past s ⟨hl, hn⟩
    rw [recentFaults, since_concat, ← recentFaults]
    cases ho : s.outcome with
    | none =>
      cases hc : s.call.isClearing with
      | true =>
        rw [Step.after_of_isClearing hc]
        exact ⟨rfl, rfl⟩
      | false =>
        obtain ⟨hl', hn'⟩ := Step.faults_of_none ho hc
        rw [Step.fault?_of_none ho, hl', hn']
        simpa using ⟨hl, hn⟩
    | some o =>
      rw [Step.isClearing_of_outcome ho, Step.fault?_of_outcome ho, Step.after_of_outcome ho,
        lastFault_settle, faultCount_settle, hl, hn]
      cases o.fault? <;> simp

/-! ## The balance -/

section Bounded

variable (settings : Settings) (signals : Option SignalHistory) {calls : List Call}

/-- As long as the counters cannot overflow, a count of the tally is a natural number. -/
theorem toNat_tally_run (h : calls.length < UInt64.size) (k : Outcome.Kind) :
    (((fresh settings signals).run calls).registry.tally.of k).toNat =
      (kinds ((fresh settings signals).steps calls)).count k := by
  have hle : (kinds ((fresh settings signals).steps calls)).count k ≤ calls.length :=
    calc (kinds ((fresh settings signals).steps calls)).count k
        ≤ (kinds ((fresh settings signals).steps calls)).length := List.count_le_length
      _ ≤ ((fresh settings signals).steps calls).length := List.length_filterMap_le _ _
      _ = calls.length := length_steps _ _
  rw [tally_run, UInt64.toNat_ofNat_of_lt' (hle.trans_lt h)]

theorem toNat_faultCount_run (h : calls.length < UInt64.size) :
    ((fresh settings signals).run calls).registry.faultCount.toNat =
      (recentFaults ((fresh settings signals).steps calls)).length := by
  have hle : (recentFaults ((fresh settings signals).steps calls)).length ≤ calls.length :=
    calc (recentFaults ((fresh settings signals).steps calls)).length
        ≤ (((fresh settings signals).steps calls).rtakeWhile _).length :=
          List.length_filterMap_le _ _
      _ ≤ ((fresh settings signals).steps calls).length := (List.rtakeWhile_suffix _ _).length_le
      _ = calls.length := length_steps _ _
  rw [(recentFaults_run settings signals calls).2,
    UInt64.toNat_ofNat_of_lt' (hle.trans_lt h)]

end Bounded

/-- In every state of every run of fewer than 2⁶⁴ calls on a fresh registry, every nomination and
removal is accounted for: by what it did, by the policy, or by its fault. The candidates are the
additions without the removals, the fault on record is the last since the faults were cleared,
and the policy leaves no trace among the faults. -/
theorem balance_run (settings : Settings) (signals : Option SignalHistory) (calls : List Call)
    (h : calls.length < UInt64.size) :
    let history := (fresh settings signals).steps calls
    let r := ((fresh settings signals).run calls).registry
    r.tally.additions.toNat = r.size + r.tally.removals.toNat ∧
    r.tally.additions.toNat + r.tally.replacements.toNat =
      history.countP (fun s => s.call.isNomination && s.isDone) ∧
    r.tally.removals.toNat = history.countP (fun s => s.call.isRemoval && s.isDone) ∧
    r.tally.additions.toNat + r.tally.replacements.toNat + r.tally.rejections.toNat +
        r.tally.removals.toNat + r.tally.faults.toNat =
      history.countP (fun s => s.call.isArbitration) ∧
    r.tally.faults.toNat = history.countP (fun s => s.fault?.isSome) ∧
    r.faultCount.toNat = (recentFaults history).length ∧
    (r.lastFault = none ↔ r.faultCount = 0) ∧
    (r.faultCount ≠ 0 → r.lastFault = (history.filterMap Step.fault?).getLast?) ∧
    ∀ s ∈ history, ∀ c o, s.outcome = some (.rejection c o) →
      s.after.lastFault = s.before.lastFault ∧ s.after.faultCount = s.before.faultCount := by
  intro history r
  have hk : ∀ k, (r.tally.of k).toNat = (kinds history).count k :=
    toNat_tally_run settings signals h
  have hadd : r.tally.additions.toNat = (kinds history).count .addition := hk .addition
  have hrep : r.tally.replacements.toNat = (kinds history).count .replacement := hk .replacement
  have hrej : r.tally.rejections.toNat = (kinds history).count .rejection := hk .rejection
  have hrem : r.tally.removals.toNat = (kinds history).count .removal := hk .removal
  have hflt : r.tally.faults.toNat = (kinds history).count .fault := hk .fault
  have hsize : (kinds history).count .addition = r.size + (kinds history).count .removal :=
    size_run settings signals calls
  obtain ⟨hlast, hcount⟩ : r.lastFault = (recentFaults history).getLast? ∧
      r.faultCount = UInt64.ofNat (recentFaults history).length :=
    recentFaults_run settings signals calls
  have hlen : r.faultCount.toNat = (recentFaults history).length :=
    toNat_faultCount_run settings signals h
  have hzero : r.faultCount = 0 ↔ recentFaults history = [] := by
    rw [← UInt64.toNat_inj, hlen]
    exact List.length_eq_zero_iff
  refine ⟨by omega, ?_, ?_, ?_, ?_, hlen, ?_, ?_, ?_⟩
  · rw [countP_kinds Step.isNomination_and_isDone, Outcome.Kind.count_add_count_seated, hadd, hrep]
  · rw [countP_kinds Step.isRemoval_and_isDone, hrem]
    exact List.count_eq_countP
  · rw [countP_kinds Step.isArbitration_eq, hadd, hrep, hrej, hrem, hflt,
      Outcome.Kind.sum_count, List.countP_true]
  · rw [countP_kinds Step.isSome_fault?, hflt]
    exact List.count_eq_countP
  · rw [hlast, hzero, List.getLast?_eq_none_iff]
  · intro hne
    rw [hlast, getLast?_recentFaults (mt hzero.mpr hne)]
  · intro s _ c o ho
    rw [Step.after_of_outcome ho]
    exact ⟨rfl, rfl⟩

/-- The balance after an addition, a nomination that the policy turns away, and a fault. -/
theorem balance_run_atHome :
    let calls : List Call := [.nominate (.atHome 0 10), .nominate (.atHome 1 99), .remove none]
    let history := (fresh {} none).steps calls
    let r := ((fresh {} none).run calls).registry
    let s : Step := ⟨((fresh {} none).run (calls.take 1)).registry, .nominate (.atHome 1 99)⟩
    calls.length < UInt64.size ∧ r.faultCount ≠ 0 ∧ s ∈ history ∧
    s.outcome = some (.rejection (.atHome 1 99) (.atHome 0 10)) ∧
    r.tally.additions.toNat = r.size + r.tally.removals.toNat ∧
    r.lastFault = (history.filterMap Step.fault?).getLast? ∧
    s.after.lastFault = s.before.lastFault := by
  intro calls history r s
  have hlen : calls.length < UInt64.size := by decide
  have hne : r.faultCount ≠ 0 := by decide
  have hs : s ∈ history := .tail _ (.head _)
  have ho : s.outcome = some (.rejection (.atHome 1 99) (.atHome 0 10)) := by decide
  obtain ⟨hsize, -, -, -, -, -, -, hlast, hrej⟩ := balance_run {} none calls hlen
  exact ⟨hlen, hne, hs, ho, hsize, hlast hne, (hrej s hs _ _ ho).1⟩

end Registry

end WifiArbiter
