import WifiArbiter.Proofs.LiveChoice

/-!
# Draining

Each candidate has a value of its own, and a scorer judges each group by one of its members of
the greatest value. The choice is then of the greatest value among all candidates, although no
group is ever compared with another but through its judgment. Choosing and removing what was
chosen, again and again, goes through all the candidates from the greatest value down to the
least, and ends when there is nothing left. In which order the groups are listed in each round,
and so which of equals goes first, makes no difference to this. All that it takes is room for the
groups, and where there is room for those of the first round, there is for all that follow.

Results:
* `Registry.Lists.exists_choose_eq`: the choice is of the greatest value of all.
* `Round.perm_after`, `Round.size_after`: a round takes one candidate, if there is any.
* `Registry.size_rounds`, `perm_rounds`, `candidates_rounds_subset`: what is left after any
  number of rounds.
* `Registry.choice_rounds_eq_sentinel`, `perm_rounds_size`, `Registry.le_of_rounds`: when the rounds
  come to their end, and what has been taken then, in which order.
* `Registry.draining_run`: the choices and the removals, round after round.
-/

namespace WifiArbiter

/-! ## Judging by the greatest -/

/-- What a scorer goes by in a group has a value that is its own and the greatest in the group,
with a finite and positive error. -/
structure Group.Pick.IsTop {g : Group} (p : g.Pick) (f : Candidate → Float) : Prop where
  value_eq : p.value = f p.candidate
  le : ∀ d ∈ g.members, f d ≤ f p.candidate
  err_finite : p.err.isFinite
  err_pos : 0 < p.err

namespace Scorer

/-- The scorer judges each group by a member of the greatest value. -/
def JudgesByTop (s : Scorer) (f : Candidate → Float) : Prop :=
  ∀ g : Group, g.members ≠ [] → ∃ p : g.Pick, p.IsTop f ∧ s.judge g = p.judgment?

/-- The judge of groups by the first of their members of the greatest value. -/
def byTop (f : Candidate → Float) (err : Float) : Scorer where
  identifier := "top"
  overridesUser := false
  judge g :=
    if g.members = [] then none
    else some (Judgment.best (g.members.map fun c => ⟨f c, err, some c.slot⟩))

section Top

variable {f : Candidate → Float} (hf : ∀ c, (f c).isFinite)

include hf

theorem le_iff_rank_le (c d : Candidate) : f c ≤ f d ↔ rank (f c) ≤ rank (f d) := by
  rw [le_iff_rank]
  exact and_iff_right (rank_ne_bot_of_isFinite (hf c))

theorem sentinel_lt_of_isFinite (c : Candidate) : Judgment.sentinel.value < f c := by
  rw [lt_iff_rank, Judgment.rank_sentinel]
  exact ⟨WithBot.coe_ne_bot, negInf_lt_rank (hf c)⟩

/-- For every assignment of finite values there is a scorer that judges by the greatest. -/
theorem judgesByTop_byTop {err : Float} (hfinite : err.isFinite) (hpos : 0 < err) :
    (byTop f err).JudgesByTop f := by
  intro g hg
  let judgment : Candidate → Judgment := fun c => ⟨f c, err, some c.slot⟩
  have hbest := Judgment.isBestFrom_best (g.members.map judgment)
  have hmem : Judgment.best (g.members.map judgment) ∈ g.members.map judgment := by
    obtain ⟨d, hd⟩ := List.exists_mem_of_ne_nil _ hg
    exact hbest.mem ⟨judgment d, List.mem_map_of_mem hd, sentinel_lt_of_isFinite hf d⟩
  obtain ⟨c, hc, heq⟩ := List.mem_map.mp hmem
  let p : g.Pick := ⟨c, hc, f c, err⟩
  have hjudged : p.judgment? = some (judgment c) :=
    Group.Pick.judgment?_eq_some_iff.mpr ⟨⟨hf c, hfinite, hpos⟩, rfl⟩
  refine ⟨p, ⟨rfl, fun d hd => ?_, hfinite, hpos⟩, ?_⟩
  · have hrank := hbest.rank_le (judgment d) (List.mem_map_of_mem hd)
    rw [← heq] at hrank
    exact (le_iff_rank_le hf d c).mpr hrank
  · rw [hjudged, heq]
    exact if_neg hg

variable {s : Scorer} (hs : s.JudgesByTop f)

include hs

/-- A group is judged by its pick, and no member has a greater value. -/
theorem JudgesByTop.exists_judge_eq {g : Group} (hg : g.members ≠ []) :
    ∃ c ∈ g.members, ∃ err, s.judge g = some ⟨f c, err, some c.slot⟩ ∧
      ∀ d ∈ g.members, f d ≤ f c := by
  obtain ⟨p, hp, hjudge⟩ := hs g hg
  have hallowed : Judgment.Allows p.value p.err :=
    ⟨hp.value_eq ▸ hf p.candidate, hp.err_finite, hp.err_pos⟩
  have hj := Group.Pick.judgment?_eq_some_iff.mpr ⟨hallowed, rfl⟩
  rw [hp.value_eq] at hj
  exact ⟨p.candidate, p.mem, p.err, hjudge.trans hj, hp.le⟩

end Top

end Scorer

/-! ## Choosing globally -/

section Choice

variable {f : Candidate → Float} (hf : ∀ c, (f c).isFinite)
variable {s : Scorer} (hs : s.JudgesByTop f)
variable {r : Registry} {gs : List Group}

include hf hs

/-- As long as there are candidates, the choice is of one with the greatest value of all. -/
theorem Registry.Lists.exists_choose_eq (h : r.Lists gs) (hr : r.candidates ≠ []) :
    ∃ c ∈ r.candidates, ∃ err, s.choose gs = ⟨f c, err, some c.slot⟩ ∧
      ∀ d ∈ r.candidates, f d ≤ f c := by
  have hbest : Judgment.IsBestFrom .sentinel (s.judgments gs) (s.choose gs) :=
    Judgment.isBestFrom_best _
  -- every candidate is in a group, whose judgment is at least as good
  have hjudged : ∀ d ∈ r.candidates, ∃ c, ∃ j ∈ s.judgments gs, j.value = f c ∧ f d ≤ f c := by
    intro d hd
    obtain ⟨g, hg, hmem⟩ := h.exists_mem_iff.mpr hd
    obtain ⟨c, -, err, hjudge, hle⟩ := hs.exists_judge_eq hf (List.ne_nil_of_mem hmem)
    exact ⟨c, _, List.mem_filterMap.mpr ⟨g, hg, hjudge⟩, rfl, hle d hmem⟩
  obtain ⟨d, hd⟩ := List.exists_mem_of_ne_nil _ hr
  have hmem : s.choose gs ∈ s.judgments gs := by
    obtain ⟨c, j, hj, hvalue, -⟩ := hjudged d hd
    exact hbest.mem ⟨j, hj, hvalue ▸ Scorer.sentinel_lt_of_isFinite hf c⟩
  obtain ⟨g, hg, hchoice⟩ := List.mem_filterMap.mp hmem
  obtain ⟨c, hc, err, hjudge, -⟩ := hs.exists_judge_eq hf (h.members_ne_nil hg)
  have heq : s.choose gs = ⟨f c, err, some c.slot⟩ :=
    Option.some.inj (hchoice.symm.trans hjudge)
  refine ⟨c, h.exists_mem_iff.mp ⟨g, hg, hc⟩, err, heq, fun d hd => ?_⟩
  obtain ⟨b, j, hj, hvalue, hle⟩ := hjudged d hd
  have hrank := hbest.rank_le j hj
  rw [hvalue, heq] at hrank
  exact (Scorer.le_iff_rank_le hf d c).mpr (((Scorer.le_iff_rank_le hf d b).mp hle).trans hrank)

end Choice

/-! ## Rounds -/

/-- A choice among the groups of a registry as they are listed, and the removal of the occupant of
the chosen slot. -/
structure Round where
  before : Registry
  scorer : Scorer
  listing : Except Breakdown (List Group)

namespace Round

/-- The choice that is made, or why there is none. -/
def choice (t : Round) : Except Breakdown Judgment :=
  (t.before.chooseAmong t.listing t.scorer).answer

/-- The slot that is chosen. -/
def slot? (t : Round) : Option Slot :=
  t.choice.toOption.bind Judgment.slot

/-- The occupant of the chosen slot. -/
def occupant? (t : Round) : Option Candidate :=
  t.slot?.bind t.before.get?

/-- The call to remove the occupant. -/
def removal (t : Round) : Step :=
  ⟨t.before, .remove t.occupant?⟩

/-- The registry after the round. Nothing is removed where no slot is chosen. -/
def after (t : Round) : Registry :=
  if t.slot?.isSome then t.removal.after else t.before

end Round

/-- Round after round, with the groups listed as `order` has them listed in each. -/
def Registry.rounds (r : Registry) (s : Scorer)
    (order : ℕ → Registry → Except Breakdown (List Group)) : ℕ → Round
  | 0 => ⟨r, s, order 0 r⟩
  | n + 1 =>
    let next := (r.rounds s order n).after
    ⟨next, s, order (n + 1) next⟩

namespace Round

variable {t : Round} {f : Candidate → Float}

theorem isCoherent_after (h : t.before.IsCoherent) : t.after.IsCoherent := by
  rw [after]
  split_ifs
  · exact Registry.isCoherent_after (s := t.removal) h
  · exact h

theorem expectedBssids_after (t : Round) :
    t.after.settings.expectedBssids = t.before.settings.expectedBssids := by
  rw [after]
  split_ifs
  · exact t.removal.expectedBssids_after
  · rfl

/-- A round in which the candidate with the greatest value of all is chosen. -/
structure Takes (t : Round) (f : Candidate → Float) (c : Candidate) : Prop where
  mem : c ∈ t.before.candidates
  exists_choice_eq : ∃ err, t.choice = .ok ⟨f c, err, some c.slot⟩
  le : ∀ d ∈ t.before.candidates, f d ≤ f c
  occupant?_eq : t.occupant? = some c
  outcome_removal : t.removal.outcome = some (.removal c)

theorem slot?_eq {c : Candidate} (h : ∃ err, t.choice = .ok ⟨f c, err, some c.slot⟩) :
    t.slot? = some c.slot := by
  obtain ⟨err, hchoice⟩ := h
  rw [slot?, hchoice]
  rfl

namespace Takes

variable {c : Candidate} (h : t.Takes f c)

include h

theorem after_eq : t.after = (t.before.settle (.removal c)).registry := by
  rw [after, slot?_eq h.exists_choice_eq, Option.isSome_some, if_pos rfl]
  exact Step.after_of_outcome h.outcome_removal

/-- The candidates are those that are left and the one that was taken. -/
theorem perm : (c :: t.after.candidates).Perm t.before.candidates := by
  rw [h.after_eq]
  exact Table.perm_values_erase (Registry.outcome_eq_removal_iff.mp h.outcome_removal).2

end Takes

/-- A round in which there is nothing to choose. -/
structure Stands (t : Round) : Prop where
  choice_eq : t.choice = .ok .sentinel
  occupant?_eq : t.occupant? = none
  after_eq : t.after = t.before

/-- A round on a coherent registry that has room for its groups, each of them judged by a member of
the greatest value. -/
structure IsFair (t : Round) (f : Candidate → Float) : Prop where
  coherent : t.before.IsCoherent
  hasRoom : t.before.HasRoom
  mayList : t.before.MayList t.listing
  judges : t.scorer.JudgesByTop f

namespace IsFair

variable (h : t.IsFair f)

include h

/-- The groups are listed, and the choice is the best judgment on them. -/
theorem exists_lists : ∃ gs, t.before.Lists gs ∧ t.choice = .ok (t.scorer.choose gs) := by
  obtain ⟨gs, hgs⟩ := h.mayList.exists_ok_iff.mpr h.hasRoom
  have hlists := h.mayList
  rw [hgs] at hlists
  refine ⟨gs, hlists.lists, ?_⟩
  rw [choice, hgs, Registry.answer_chooseAmong_ok]

theorem stands (hn : t.before.size = 0) : t.Stands := by
  obtain ⟨gs, hgs, hchoice⟩ := h.exists_lists
  have hsentinel : t.choice = .ok .sentinel := by
    rw [hchoice, hgs.eq_nil_of_size_eq_zero hn]
    rfl
  have hslot : t.slot? = none := by
    rw [slot?, hsentinel]
    rfl
  refine ⟨hsentinel, ?_, ?_⟩
  · rw [occupant?, hslot]
    rfl
  · rw [after, hslot]
    rfl

theorem hasRoom_after : t.after.HasRoom := by
  rcases h.hasRoom with hsize | hlt
  · rw [(h.stands hsize).after_eq]
    exact .inl hsize
  · rw [Registry.HasRoom, t.expectedBssids_after]
    exact .inr hlt

variable (hf : ∀ c, (f c).isFinite)

include hf

theorem exists_takes (hne : t.before.size ≠ 0) : ∃ c, t.Takes f c := by
  obtain ⟨gs, hgs, hchoice⟩ := h.exists_lists
  have hcandidates : t.before.candidates ≠ [] := by
    rwa [ne_eq, ← List.length_eq_zero_iff, Registry.length_candidates]
  obtain ⟨c, hc, err, heq, hle⟩ := hgs.exists_choose_eq hf h.judges hcandidates
  rw [heq] at hchoice
  obtain ⟨g, hg, hmem⟩ := hgs.exists_mem_iff.mpr hc
  have hget : t.before.get? c.slot = some c := hgs.get?_of_mem h.coherent hg hmem
  have hoccupant : t.occupant? = some c := by
    rw [occupant?, slot?_eq ⟨err, hchoice⟩]
    exact hget
  refine ⟨c, hc, ⟨err, hchoice⟩, hle, hoccupant, ?_⟩
  rw [removal, hoccupant]
  exact Registry.outcome_eq_removal_iff.mpr ⟨rfl, hget⟩

/-- The candidates are those that are left and the one that was taken, if there was any. -/
theorem perm_after : (t.occupant?.toList ++ t.after.candidates).Perm t.before.candidates := by
  by_cases hne : t.before.size = 0
  · rw [(h.stands hne).occupant?_eq, (h.stands hne).after_eq]
    exact .refl _
  · obtain ⟨c, hc⟩ := h.exists_takes hf hne
    rw [hc.occupant?_eq]
    exact hc.perm

/-- A round makes the registry smaller by one, if there is anything in it. -/
theorem size_after : t.after.size = t.before.size - 1 := by
  by_cases hne : t.before.size = 0
  · rw [(h.stands hne).after_eq, hne]
  · obtain ⟨c, hc⟩ := h.exists_takes hf hne
    have hlength := hc.perm.length_eq
    rw [List.length_cons, Registry.length_candidates, Registry.length_candidates] at hlength
    omega

end IsFair

end Round

/-! ## Round after round -/

namespace Registry

section Rounds

variable {f : Candidate → Float} (hf : ∀ c, (f c).isFinite)
variable {s : Scorer} (hs : s.JudgesByTop f) {r : Registry} (hr : r.IsCoherent) (hroom : r.HasRoom)
variable {order : ℕ → Registry → Except Breakdown (List Group)}
variable (ho : ∀ n (t : Registry), t.MayList (order n t))

include hs hr hroom ho

theorem isFair_rounds (n : ℕ) : (r.rounds s order n).IsFair f := by
  induction n with
  | zero => exact ⟨hr, hroom, ho 0 r, hs⟩
  | succ n ih => exact ⟨Round.isCoherent_after ih.coherent, ih.hasRoom_after, ho _ _, hs⟩

include hf

/-- After any number of rounds, so many candidates fewer are left, as long as there are any. -/
theorem size_rounds (n : ℕ) : (r.rounds s order n).before.size = r.size - n := by
  induction n with
  | zero => rfl
  | succ n ih =>
    have hafter := (isFair_rounds hs hr hroom ho n).size_after hf
    rw [ih, Nat.sub_sub] at hafter
    exact hafter

/-- After any number of rounds, the candidates are those that were taken and those that are left. -/
theorem perm_rounds (n : ℕ) :
    (((List.range n).filterMap fun i => (r.rounds s order i).occupant?) ++
      (r.rounds s order n).before.candidates).Perm r.candidates := by
  induction n with
  | zero => exact .refl _
  | succ n ih =>
    have hafter := (isFair_rounds hs hr hroom ho n).perm_after hf
    have hlast : [n].filterMap (fun i => (r.rounds s order i).occupant?) =
        (r.rounds s order n).occupant?.toList := by
      cases h : (r.rounds s order n).occupant? <;> simp [h]
    rw [List.range_succ, List.filterMap_append, hlast, List.append_assoc]
    exact (hafter.append_left _).trans ih

/-- What is left after more rounds was left before them. -/
theorem candidates_rounds_subset {m n : ℕ} (h : m ≤ n) :
    (r.rounds s order n).before.candidates ⊆ (r.rounds s order m).before.candidates := by
  induction n, h using Nat.le_induction with
  | base => exact List.Subset.refl _
  | succ n _ ih =>
    have hafter := (isFair_rounds hs hr hroom ho n).perm_after hf
    exact fun c hc => ih (hafter.subset (List.mem_append_right _ hc))

theorem exists_takes_rounds {n : ℕ} (h : n < r.size) : ∃ c, (r.rounds s order n).Takes f c := by
  apply (isFair_rounds hs hr hroom ho n).exists_takes hf
  rw [size_rounds hf hs hr hroom ho]
  omega

theorem choice_rounds_eq_sentinel {n : ℕ} (h : r.size ≤ n) :
    (r.rounds s order n).choice = .ok .sentinel := by
  have hsize := size_rounds hf hs hr hroom ho n
  rw [Nat.sub_eq_zero_of_le h] at hsize
  exact ((isFair_rounds hs hr hroom ho n).stands hsize).choice_eq

/-- Every round has a choice, which is the sentinel, and names no slot, once so many rounds have
been made as there were candidates. -/
theorem exists_choice_rounds (n : ℕ) : ∃ j, (r.rounds s order n).choice = .ok j ∧
    (j = .sentinel ↔ r.size ≤ n) ∧ (j.isNone = true ↔ r.size ≤ n) := by
  by_cases hn : r.size ≤ n
  · exact ⟨_, choice_rounds_eq_sentinel hf hs hr hroom ho hn, iff_of_true rfl hn,
      iff_of_true rfl hn⟩
  · obtain ⟨c, hc⟩ := exists_takes_rounds hf hs hr hroom ho (not_le.mp hn)
    obtain ⟨err, hchoice⟩ := hc.exists_choice_eq
    have hne : (⟨f c, err, some c.slot⟩ : Judgment) ≠ .sentinel := fun h =>
      Option.some_ne_none c.slot (congrArg Judgment.slot h)
    exact ⟨_, hchoice, iff_of_false hne hn, iff_of_false Bool.false_ne_true hn⟩

/-- The occupant of the chosen slot is what the round takes. -/
theorem takes_of_occupant? {n : ℕ} {c : Candidate} (h : (r.rounds s order n).occupant? = some c) :
    (r.rounds s order n).Takes f c := by
  have hn : n < r.size := by
    by_contra hle
    rw [Round.occupant?, Round.slot?,
      choice_rounds_eq_sentinel hf hs hr hroom ho (not_lt.mp hle)] at h
    cases h
  obtain ⟨d, hd⟩ := exists_takes_rounds hf hs hr hroom ho hn
  obtain rfl : d = c := Option.some.inj (hd.occupant?_eq.symm.trans h)
  exact hd

/-- All candidates are taken in as many rounds as there are candidates. -/
theorem perm_rounds_size :
    ((List.range r.size).filterMap fun n => (r.rounds s order n).occupant?).Perm
      r.candidates := by
  have hperm := perm_rounds hf hs hr hroom ho r.size
  have hzero := size_rounds hf hs hr hroom ho r.size
  rw [Nat.sub_self, ← length_candidates, List.length_eq_zero_iff] at hzero
  rwa [hzero, List.append_nil] at hperm

/-- What is chosen later was there to be chosen before. -/
theorem le_of_rounds {m n : ℕ} {i j : Judgment} (hmn : m ≤ n) (hn : n < r.size)
    (hi : (r.rounds s order m).choice = .ok i) (hj : (r.rounds s order n).choice = .ok j) :
    j.value ≤ i.value := by
  obtain ⟨c, hc⟩ := exists_takes_rounds hf hs hr hroom ho (hmn.trans_lt hn)
  obtain ⟨d, hd⟩ := exists_takes_rounds hf hs hr hroom ho hn
  obtain ⟨_, hchoice⟩ := hc.exists_choice_eq
  obtain ⟨_, hchoice'⟩ := hd.exists_choice_eq
  rw [Except.ok.inj (hi.symm.trans hchoice), Except.ok.inj (hj.symm.trans hchoice')]
  exact hc.le d (candidates_rounds_subset hf hs hr hroom ho hmn hd.mem)

end Rounds

/-- In every state of every run, and whatever the order in which the groups are listed, there is a
choice just when there is room for the groups, and a scorer that judges each group by a member of
the greatest value then chooses a candidate of the greatest value of all. When choosing and removing
the occupant of the chosen slot are repeated, with the groups listed in another order in each round,
every choice is made, every removal is done and none is a fault; each candidate is taken once, in an
order in which the values do not rise; and the sentinel is chosen as soon as as many rounds have been
made as there were candidates, and not before. -/
theorem draining_run (settings : Settings) (signals : Option SignalHistory) (calls : List Call)
    {f : Candidate → Float} (hf : ∀ c, (f c).isFinite) {s : Scorer} (hs : s.JudgesByTop f) :
    let r := ((fresh settings signals).run calls).registry
    r.MayList r.groups ∧ r.choose s = r.chooseAmong r.groups s ∧
    (∀ listing, r.MayList listing → (r.chooseAmong listing s).registry = r ∧
      ((∃ choice, (r.chooseAmong listing s).answer = .ok choice) ↔
        r.size = 0 ∨ settings.expectedBssids.toNat < 2 ^ 60)) ∧
    (∀ listing choice, r.MayList listing → (r.chooseAmong listing s).answer = .ok choice →
      r.size ≠ 0 → ∃ c ∈ r.candidates, choice.slot = some c.slot ∧ choice.value = f c ∧
        r.get? c.slot = some c ∧ ∀ d ∈ r.candidates, f d ≤ f c) ∧
    (r.size = 0 ∨ settings.expectedBssids.toNat < 2 ^ 60 →
      ∀ order : ℕ → Registry → Except Breakdown (List Group),
      (∀ n (t : Registry), t.MayList (order n t)) →
      let round := r.rounds s order
      (∀ n, (round n).before.size = r.size - n) ∧
      (∀ n, ∃ j, (round n).choice = .ok j ∧ (j = .sentinel ↔ r.size ≤ n) ∧
        (j.isNone = true ↔ r.size ≤ n)) ∧
      (∀ n, n < r.size → (round n).removal.reply = .outcome (.ok true) ∧
        (round n).removal.fault? = none) ∧
      ((List.range r.size).filterMap fun n => (round n).occupant?).Perm r.candidates ∧
      (∀ n c j, (round n).occupant? = some c → (round n).choice = .ok j → j.value = f c) ∧
      ∀ m n i j, m ≤ n → n < r.size → (round m).choice = .ok i → (round n).choice = .ok j →
        j.value ≤ i.value) := by
  intro r
  have hr : r.IsCoherent := isCoherent_run settings signals calls
  refine ⟨r.mayList_groups, rfl, fun listing h => ⟨rfl, ?_⟩,
    fun listing choice h hchoice hne => ?_, fun hroom order ho => ?_⟩
  · rw [h.exists_answer_iff, hasRoom_run_iff]
  · have hroom : r.HasRoom := (h.exists_answer_iff s).mp ⟨choice, hchoice⟩
    obtain ⟨c, hc⟩ := Round.IsFair.exists_takes (t := ⟨r, s, listing⟩) ⟨hr, hroom, h, hs⟩ hf hne
    obtain ⟨err, heq⟩ := hc.exists_choice_eq
    obtain rfl : choice = ⟨f c, err, some c.slot⟩ := Except.ok.inj (hchoice.symm.trans heq)
    exact ⟨c, hc.mem, rfl, rfl, (outcome_eq_removal_iff.mp hc.outcome_removal).2, hc.le⟩
  · intro round
    rw [← hasRoom_run_iff settings signals calls] at hroom
    refine ⟨size_rounds hf hs hr hroom ho, exists_choice_rounds hf hs hr hroom ho, fun n h => ?_,
      perm_rounds_size hf hs hr hroom ho, fun n c j hc hj => ?_,
      fun m n i j => le_of_rounds hf hs hr hroom ho⟩
    · obtain ⟨c, hc⟩ := exists_takes_rounds hf hs hr hroom ho h
      exact ⟨Step.reply_of_outcome hc.outcome_removal, Step.fault?_of_outcome hc.outcome_removal⟩
    · obtain ⟨err, heq⟩ := (takes_of_occupant? hf hs hr hroom ho hc).exists_choice_eq
      rw [Except.ok.inj (hj.symm.trans heq)]

/-- Three candidates, two of them of equal value and of different networks, with the groups listed
the other way round in every second round. -/
theorem draining_run_atHome :
    let near : Nomination := { Nomination.atHome 0 20 with
      sighting := some ⟨some { ScanResult.atHome with bssid := "00:11:22:33:44:AC" }, ⟨1000⟩⟩ }
    let other : Nomination := { Nomination.atHome 0 30 with saved := some (.psk ⟨2⟩ "home") }
    let calls : List Call := [.nominate (.atHome 0 10), .nominate near, .nominate other]
    let r := ((fresh {} none).run calls).registry
    let one := Float.ofBits 0x3FF0000000000000
    let two := Float.ofBits 0x4000000000000000
    let f : Candidate → Float := fun c => if c.score = 10 then one else two
    let s := Scorer.byTop f one
    let order : ℕ → Registry → Except Breakdown (List Group) := fun n t =>
      if n % 2 = 0 then t.groups else t.groups.map List.reverse
    let round := r.rounds s order
    (∀ c, (f c).isFinite) ∧ s.JudgesByTop f ∧ (∀ n (t : Registry), t.MayList (order n t)) ∧
    r.size = 3 ∧ (∃ j, (round 3).choice = .ok j ∧ j = .sentinel) ∧
    (round 2).removal.reply = .outcome (.ok true) ∧
    ((List.range 3).filterMap fun n => (round n).occupant?).Perm r.candidates ∧
    ∃ i j, (round 0).choice = .ok i ∧ (round 2).choice = .ok j ∧ i.value = two ∧ j.value = one ∧
      j.value ≤ i.value := by
  intro near other calls r one two f s order round
  have hf : ∀ c, (f c).isFinite := by
    intro c
    change (if c.score = 10 then one else two).isFinite = true
    split_ifs <;> decide
  have hs : s.JudgesByTop f := Scorer.judgesByTop_byTop hf (by decide) (by decide)
  have ho : ∀ n (t : Registry), t.MayList (order n t) := by
    intro n t
    change t.MayList (if n % 2 = 0 then t.groups else t.groups.map List.reverse)
    split_ifs
    · exact t.mayList_groups
    · exact t.mayList_groups.map_reverse
  have hsize : r.size = 3 := by decide
  obtain ⟨-, -, -, -, hrounds⟩ := draining_run {} none calls hf hs
  obtain ⟨-, hchoice, hremoval, hperm, -, hvalue⟩ := hrounds (.inr (by decide)) order ho
  obtain ⟨last, hlast, hsentinel, -⟩ := hchoice 3
  obtain ⟨i, hi, -⟩ := hchoice 0
  obtain ⟨j, hj, -⟩ := hchoice 2
  refine ⟨hf, hs, ho, hsize, ⟨last, hlast, hsentinel.mpr hsize.le⟩, (hremoval 2 (by decide)).1,
    hperm, i, j, hi, hj, ?_, ?_, hvalue 0 2 i j (by decide) (by decide) hi hj⟩
  · have htwo : (round 0).choice.map Judgment.value = .ok two := by decide
    rw [hi] at htwo
    exact Except.ok.inj htwo
  · have hone : (round 2).choice.map Judgment.value = .ok one := by decide
    rw [hj] at hone
    exact Except.ok.inj hone

/-- A registry can be built to expect as many access points as can be counted, and then the only
candidate there is cannot be drained: the first round has no choice. -/
theorem draining_run_overflow :
    let settings : Settings := { expectedBssids := 18446744073709551615 }
    let r := ((fresh settings none).run [.nominate (.atHome 0 10)]).registry
    let one := Float.ofBits 0x3FF0000000000000
    let f : Candidate → Float := fun _ => one
    let s := Scorer.byTop f one
    ofSettings settings = .ok (fresh settings none) ∧ s.JudgesByTop f ∧ r.size = 1 ∧
      ∀ order : ℕ → Registry → Except Breakdown (List Group),
        (∀ n (t : Registry), t.MayList (order n t)) →
        (r.rounds s order 0).choice = .error .capacityOverflow := by
  intro settings r one f s
  have hf : ∀ c, (f c).isFinite := fun _ => by decide
  have hroom : ¬ r.HasRoom := by decide
  refine ⟨rfl, Scorer.judgesByTop_byTop hf (by decide) (by decide), by decide, fun order ho => ?_⟩
  have hlisting : order 0 r = .error .capacityOverflow := (ho 0 r).eq_error hroom
  change (r.chooseAmong (order 0 r) s).answer = .error .capacityOverflow
  rw [hlisting]
  rfl

end Registry

end WifiArbiter
