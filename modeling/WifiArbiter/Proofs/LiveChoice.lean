import WifiArbiter.Proofs.Choice

/-!
# Live choices

A scorer may judge each group by one of its members, with a value and an error as
they are allowed for candidates. Its choice then points at a candidate that is there:
the slot of the choice holds the candidate that was judged, and it can be removed. The
sentinel is chosen only where the scorer abstains from all judgment, because even the
least of the finite values is better.

Results:
* `Judgment.ofCandidate_eq_ok_iff`: which values and errors a judgment of a candidate has.
* `Registry.Lists.get?_of_mem`: the members of the groups are in their slots.
* `Scorer.JudgesBy.choose_eq_sentinel_iff`, `choose_mem`: when the sentinel is chosen, and
  that the choice is otherwise the judgment on a group.
* `Registry.exists_pick`: a judgment on a group points at a candidate that is there.
* `Registry.choice_live`: the choice of such a scorer, in full.
-/

namespace WifiArbiter

/-! ## Judging by a member -/

/-- A judgment of a candidate may have the value and the error. -/
structure Judgment.Allows (value err : Float) : Prop where
  value_finite : value.isFinite
  err_finite : err.isFinite
  err_pos : 0 < err

/-- A candidate is judged by its slot, where the value and the error are allowed. -/
theorem Judgment.ofCandidate_eq_ok_iff {value err : Float} {c : Candidate} {j : Judgment} :
    ofCandidate value err c = .ok j ↔ Allows value err ∧ j = ⟨value, err, some c.slot⟩ := by
  -- what is finite is not NaN, and so an error that is not at most 0 is above it
  have hpos : err.isFinite → (0 < err ↔ ¬ err ≤ 0) := fun h =>
    lt_iff_not_le (by decide) (rank_ne_bot_of_isFinite h)
  rw [ofCandidate]
  split_ifs with h
  · obtain ⟨hvalue, herr, hle⟩ := h
    rw [Except.ok.injEq, eq_comm]
    exact (and_iff_right ⟨hvalue, herr, (hpos herr).mpr hle⟩).symm
  · refine ⟨nofun, fun ⟨hallowed, _⟩ => ?_⟩
    exact absurd ⟨hallowed.value_finite, hallowed.err_finite,
      (hpos hallowed.err_finite).mp hallowed.err_pos⟩ h

/-- What a scorer goes by in a group: one of its members, with a value and an error. -/
structure Group.Pick (g : Group) where
  candidate : Candidate
  mem : candidate ∈ g.members
  value : Float
  err : Float

/-- The judgment of the member, if the value and the error are allowed. -/
def Group.Pick.judgment? {g : Group} (p : g.Pick) : Option Judgment :=
  (Judgment.ofCandidate p.value p.err p.candidate).toOption

theorem Group.Pick.judgment?_eq_some_iff {g : Group} {p : g.Pick} {j : Judgment} :
    p.judgment? = some j ↔
      Judgment.Allows p.value p.err ∧ j = ⟨p.value, p.err, some p.candidate.slot⟩ := by
  rw [← Judgment.ofCandidate_eq_ok_iff, judgment?]
  cases Judgment.ofCandidate p.value p.err p.candidate <;> simp [Except.toOption]

namespace Scorer

/-- The scorer judges a group by its pick. It abstains where there is none, and where the value
or the error is not allowed. -/
def JudgesBy (s : Scorer) (pick : (g : Group) → Option g.Pick) : Prop :=
  ∀ g, s.judge g = (pick g).bind Group.Pick.judgment?

/-- The scorer abstains from all judgment. -/
def Abstains (s : Scorer) (gs : List Group) : Prop :=
  ∀ g ∈ gs, s.judge g = none

instance (s : Scorer) (gs : List Group) : Decidable (s.Abstains gs) :=
  inferInstanceAs (Decidable (∀ g ∈ gs, s.judge g = none))

theorem choose_of_abstains {s : Scorer} {gs : List Group} (h : s.Abstains gs) :
    s.choose gs = .sentinel := by
  rw [choose, judgments, List.filterMap_eq_nil_iff.mpr h]
  rfl

namespace JudgesBy

variable {s : Scorer} {pick : (g : Group) → Option g.Pick} (hs : s.JudgesBy pick)
variable {g : Group} {j : Judgment} {gs : List Group}

include hs

theorem judge_eq_some_iff :
    s.judge g = some j ↔ ∃ p, pick g = some p ∧
      Judgment.Allows p.value p.err ∧ j = ⟨p.value, p.err, some p.candidate.slot⟩ := by
  simp only [hs g, Option.bind_eq_some_iff, Group.Pick.judgment?_eq_some_iff]

/-- Every judgment is better than none. -/
theorem sentinel_lt (h : s.judge g = some j) : Judgment.sentinel.value < j.value := by
  obtain ⟨p, -, hallowed, rfl⟩ := hs.judge_eq_some_iff.mp h
  refine lt_iff_rank.mpr ⟨Judgment.rank_sentinel_ne_bot, ?_⟩
  rw [Judgment.rank_sentinel]
  exact negInf_lt_rank hallowed.value_finite

theorem isNone_eq_false (h : s.judge g = some j) : j.isNone = false := by
  obtain ⟨p, -, -, rfl⟩ := hs.judge_eq_some_iff.mp h
  rfl

/-- Unless the scorer abstains from all judgment, its choice is its judgment on a group. -/
theorem choose_mem (h : ¬ s.Abstains gs) : ∃ g ∈ gs, s.judge g = some (s.choose gs) := by
  obtain ⟨g, hg, hne⟩ : ∃ g ∈ gs, s.judge g ≠ none := by
    simpa [Abstains] using h
  obtain ⟨j, hj⟩ := Option.ne_none_iff_exists'.mp hne
  have hmem : j ∈ s.judgments gs := List.mem_filterMap.mpr ⟨g, hg, hj⟩
  exact List.mem_filterMap.mp
    ((Judgment.isBestFrom_best (s.judgments gs)).mem ⟨j, hmem, hs.sentinel_lt hj⟩)

theorem isNone_choose_iff : (s.choose gs).isNone = true ↔ s.Abstains gs := by
  constructor
  · intro h
    by_contra hnot
    obtain ⟨g, -, hg⟩ := hs.choose_mem hnot
    rw [hs.isNone_eq_false hg] at h
    cases h
  · intro h
    rw [choose_of_abstains h]
    rfl

/-- The sentinel is chosen just when the scorer abstains from all judgment. -/
theorem choose_eq_sentinel_iff : s.choose gs = .sentinel ↔ s.Abstains gs := by
  refine ⟨fun h => hs.isNone_choose_iff.mp ?_, choose_of_abstains⟩
  rw [h]
  rfl

end JudgesBy

end Scorer

/-! ## Candidates in groups -/

namespace Registry

variable {r : Registry} {gs : List Group}

theorem Lists.mem_of_mem (h : r.Lists gs) {g : Group} (hg : g ∈ gs) {c : Candidate}
    (hc : c ∈ g.members) : c ∈ r.candidates ∧ c.slot.networkId = g.networkId := by
  have hfor := (h.perm_members hg).mem_iff.mp hc
  rw [candidatesFor, List.mem_filter, decide_eq_true_iff] at hfor
  exact hfor

/-- The members of the groups of a coherent registry are in their slots. -/
theorem Lists.get?_of_mem (h : r.Lists gs) (hr : r.IsCoherent) {g : Group} (hg : g ∈ gs)
    {c : Candidate} (hc : c ∈ g.members) : r.get? c.slot = some c :=
  hr.get?_of_mem (h.mem_of_mem hg hc).1

/-- Where there are no candidates, there is nothing to judge. -/
theorem Lists.eq_nil_of_size_eq_zero (h : r.Lists gs) (hr : r.size = 0) : gs = [] := by
  have hnone : r.candidates = [] := by
    rw [candidates, Table.values, List.length_eq_zero_iff.mp hr]
    rfl
  have hids := h.perm_networkIds
  rw [networkIds, hnone] at hids
  exact List.map_eq_nil_iff.mp hids.eq_nil

/-- A judgment on a group points at a candidate that is there, for the network of the group. -/
theorem exists_pick (hr : r.IsCoherent) (h : r.Lists gs) {s : Scorer}
    {pick : (g : Group) → Option g.Pick} (hs : s.JudgesBy pick) {g : Group} (hg : g ∈ gs)
    {j : Judgment} (hj : s.judge g = some j) :
    ∃ p, pick g = some p ∧ Judgment.Allows j.value j.err ∧
      j = ⟨p.value, p.err, some p.candidate.slot⟩ ∧
      p.candidate.slot.networkId = g.networkId ∧ r.get? p.candidate.slot = some p.candidate := by
  obtain ⟨p, hp, hallowed, rfl⟩ := hs.judge_eq_some_iff.mp hj
  exact ⟨p, hp, hallowed, rfl, (h.mem_of_mem hg p.mem).2, h.get?_of_mem hr hg p.mem⟩

/-- Whether there is room for the groups is a matter of the settings at the start. -/
theorem hasRoom_run_iff (settings : Settings) (signals : Option SignalHistory)
    (calls : List Call) :
    ((fresh settings signals).run calls).registry.HasRoom ↔
      ((fresh settings signals).run calls).registry.size = 0 ∨
        settings.expectedBssids.toNat < 2 ^ 60 := by
  rw [HasRoom, expectedBssids_run]

/-- In every state of every run, and whatever the order in which the groups are listed, there is a
choice just when there is room for the groups. If the scorer judges by members, the choice is then
the sentinel just when it abstains from all judgment, as it does where there are no candidates.
Otherwise the choice is its judgment on a group, with a finite value and a finite and positive
error, and names a slot. The slot is for the network of this group and holds the member by which it
was judged, which can then be removed. -/
theorem choice_live (settings : Settings) (signals : Option SignalHistory) (calls : List Call)
    {s : Scorer} {pick : (g : Group) → Option g.Pick} (hs : s.JudgesBy pick) :
    let r := ((fresh settings signals).run calls).registry
    r.MayList r.groups ∧ r.choose s = r.chooseAmong r.groups s ∧
    (∀ listing, r.MayList listing → (r.chooseAmong listing s).registry = r ∧
      ((∃ choice, (r.chooseAmong listing s).answer = .ok choice) ↔
        r.size = 0 ∨ settings.expectedBssids.toNat < 2 ^ 60)) ∧
    ∀ gs choice, r.MayList (.ok gs) → (r.chooseAmong (.ok gs) s).answer = .ok choice →
      (choice = .sentinel ↔ s.Abstains gs) ∧ (choice.isNone = true ↔ s.Abstains gs) ∧
      (r.size = 0 → s.Abstains gs) ∧
      (s.Abstains gs →
        choice.value.isInf ∧ choice.value < 0 ∧ choice.err.isInf ∧ 0 < choice.err) ∧
      (¬ s.Abstains gs → ∃ slot,
        choice.slot = some slot ∧ choice.value.isFinite ∧ choice.err.isFinite ∧ 0 < choice.err ∧
        (∃ g ∈ gs, s.judge g = some choice) ∧
        (∀ g ∈ gs, s.judge g = some choice → slot.networkId = g.networkId ∧
          ∃ p, pick g = some p ∧ choice = ⟨p.value, p.err, some slot⟩ ∧
            r.get? slot = some p.candidate) ∧
        (r.remove (r.get? slot)).answer = .ok true) := by
  intro r
  have hr : r.IsCoherent := isCoherent_run settings signals calls
  refine ⟨r.mayList_groups, rfl, fun listing h => ⟨rfl, ?_⟩, fun gs choice hlisting hchoice => ?_⟩
  · rw [h.exists_answer_iff, hasRoom_run_iff]
  have hgs : r.Lists gs := hlisting.lists
  rw [answer_chooseAmong_ok] at hchoice
  cases hchoice
  refine ⟨hs.choose_eq_sentinel_iff, hs.isNone_choose_iff, fun hsize => ?_, fun h => ?_,
    fun h => ?_⟩
  · rw [hgs.eq_nil_of_size_eq_zero hsize]
    exact fun _ hg => absurd hg List.not_mem_nil
  · rw [Scorer.choose_of_abstains h]
    decide
  · obtain ⟨g, hg, hjudge⟩ := hs.choose_mem h
    obtain ⟨p, -, hallowed, hchoice, -, hget⟩ := exists_pick hr hgs hs hg hjudge
    have hslot : (s.choose gs).slot = some p.candidate.slot := congrArg Judgment.slot hchoice
    refine ⟨p.candidate.slot, hslot, hallowed.value_finite, hallowed.err_finite, hallowed.err_pos,
      ⟨g, hg, hjudge⟩, fun g' hg' hj => ?_, ?_⟩
    · obtain ⟨q, hq, -, hchoice', hid, hget'⟩ := exists_pick hr hgs hs hg' hj
      have heq : p.candidate.slot = q.candidate.slot :=
        Option.some.inj (hslot.symm.trans (congrArg Judgment.slot hchoice'))
      rw [heq]
      exact ⟨hid, q, hq, hchoice', hget'⟩
    · rw [hget, remove, if_pos hget]

/-- A choice between the least of the finite values on one network and nothing on another. -/
theorem choice_live_atHome :
    let other : Nomination := { Nomination.atHome 0 10 with saved := some (.psk ⟨2⟩ "home") }
    let calls : List Call := [.nominate (.atHome 0 10), .nominate other]
    let r := ((fresh {} none).run calls).registry
    let least := Float.ofBits 0xFFEFFFFFFFFFFFFF
    let one := Float.ofBits 0x3FF0000000000000
    let pick : (g : Group) → Option g.Pick := fun g =>
      if g.networkId = ⟨1⟩ then g.members.attach.head?.map fun ⟨c, hc⟩ => ⟨c, hc, least, one⟩
      else none
    let s : Scorer :=
      { identifier := "least", overridesUser := false
        judge := fun g => (pick g).bind Group.Pick.judgment? }
    let gs := Group.ofCandidates r.candidates
    s.JudgesBy pick ∧ r.groups = .ok gs ∧ ¬ s.Abstains gs ∧
    ∃ choice, (r.choose s).answer = .ok choice ∧ choice ≠ .sentinel ∧ choice.value = least ∧
      ∃ slot, choice.slot = some slot ∧ choice.value.isFinite ∧
        (r.remove (r.get? slot)).answer = .ok true := by
  intro other calls r least one pick s gs
  have hs : s.JudgesBy pick := fun _ => rfl
  have hgroups : r.groups = .ok gs := by decide
  have hjudged : ¬ s.Abstains gs := by decide
  obtain ⟨hmay, hchoose, hreturns, hchoice⟩ := choice_live {} none calls hs
  obtain ⟨choice, hanswer⟩ := (hreturns _ hmay).2.mpr (by decide)
  rw [← hchoose] at hanswer
  have hanswer' : (r.chooseAmong (.ok gs) s).answer = .ok choice := by
    rw [← hgroups]
    exact hanswer
  have hmay' : r.MayList (.ok gs) := by
    rw [← hgroups]
    exact hmay
  obtain ⟨hsentinel, -, -, -, hlive⟩ := hchoice gs choice hmay' hanswer'
  obtain ⟨slot, hslot, hvalue, -, -, -, -, hremove⟩ := hlive hjudged
  have hleast : choice.value = least := by
    rw [answer_chooseAmong_ok] at hanswer'
    rw [← Except.ok.inj hanswer']
    decide
  exact ⟨hs, hgroups, hjudged, choice, hanswer, mt hsentinel.mp hjudged, hleast, slot, hslot, hvalue,
    hremove⟩

/-- A registry can be built to expect as many access points as can be counted, and then a scorer
that judges the only candidate there is chooses nothing. -/
theorem choice_live_overflow :
    let settings : Settings := { expectedBssids := 18446744073709551615 }
    let calls : List Call := [.nominate (.atHome 0 10)]
    let r := ((fresh settings none).run calls).registry
    let one := Float.ofBits 0x3FF0000000000000
    let pick : (g : Group) → Option g.Pick := fun g =>
      g.members.attach.head?.map fun ⟨c, hc⟩ => ⟨c, hc, one, one⟩
    let s : Scorer :=
      { identifier := "first", overridesUser := false
        judge := fun g => (pick g).bind Group.Pick.judgment? }
    ofSettings settings = .ok (fresh settings none) ∧ s.JudgesBy pick ∧
      ¬ s.Abstains (Group.ofCandidates r.candidates) ∧
      ¬ ∃ choice, (r.choose s).answer = .ok choice := by
  intro settings calls r one pick s
  have hroom : ¬ r.HasRoom := by decide
  exact ⟨rfl, fun _ => rfl, by decide, mt (r.mayList_groups.exists_answer_iff s).mp hroom⟩

end Registry

end WifiArbiter
