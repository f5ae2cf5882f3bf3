import WifiArbiter.Proofs.Coherence
import WifiArbiter.Proofs.Grouping
import WifiArbiter.Proofs.Rank

/-!
# Choices

A choice is the best of the judgments of a scorer, one on each network. Since the
groups come in no particular order and a judgment may have any value, NaN and the
infinities among them, what has to be shown is that neither sways the choice.

Results:
* `Judgment.isBestFrom_best`: the best of some judgments is at least each of them, or
  the sentinel if none is above −∞.
* `Judgment.best_filter`: judgments of NaN do not count.
* `Registry.Lists.perm_judgments`: the judgments are the same for every listing.
* `Registry.run_chooseBy_noting`: a choice asks the scorer about each group once.
* `Registry.choice_best`: the choice, in full.
-/

namespace WifiArbiter

namespace Judgment

/-! ## The best judgment -/

theorem isBetter_iff {i j : Judgment} :
    i.isBetter j = true ↔ rank j.value ≠ ⊥ ∧ rank j.value < rank i.value := by
  rw [isBetter, decide_eq_true_iff, lt_iff_rank]

/-- Only what is below it in rank, if it is not NaN, does not beat a judgment. -/
theorem rank_le_of_not_isBetter {i j : Judgment} (hj : rank j.value ≠ ⊥)
    (h : i.isBetter j = false) : rank i.value ≤ rank j.value := by
  by_contra hlt
  rw [isBetter_iff.mpr ⟨hj, not_le.mp hlt⟩] at h
  cases h

theorem rank_sentinel : rank sentinel.value = Rank.negInf := by decide

theorem rank_sentinel_ne_bot : rank sentinel.value ≠ ⊥ := by decide

/-- A judgment is the first, or one of the others and better than the first, and none of the
others is better. -/
structure IsBestFrom (first : Judgment) (js : List Judgment) (best : Judgment) : Prop where
  eq_or_mem : best = first ∨ best ∈ js ∧ rank first.value < rank best.value
  rank_le : ∀ j ∈ js, rank j.value ≤ rank best.value

/-- Going through judgments with the best so far in hand leaves the best of them. -/
theorem isBestFrom_foldl {first : Judgment} (h : rank first.value ≠ ⊥) (js : List Judgment) :
    IsBestFrom first js
      (js.foldl (fun choice j => if j.isBetter choice then j else choice) first) := by
  induction js generalizing first with
  | nil => exact ⟨.inl rfl, fun _ hj => absurd hj List.not_mem_nil⟩
  | cons i js ih =>
    rw [List.foldl_cons]
    cases hi : i.isBetter first with
    | true =>
      rw [if_pos rfl]
      have hlt : rank first.value < rank i.value := (isBetter_iff.mp hi).2
      obtain ⟨hbest, hle⟩ := ih (ne_bot_of_gt hlt)
      rcases hbest with hbest | ⟨hmem, hgt⟩
      · rw [hbest] at hle ⊢
        exact ⟨.inr ⟨.head _, hlt⟩, List.forall_mem_cons.mpr ⟨le_rfl, hle⟩⟩
      · exact ⟨.inr ⟨.tail _ hmem, hlt.trans hgt⟩, List.forall_mem_cons.mpr ⟨hgt.le, hle⟩⟩
    | false =>
      rw [if_neg Bool.false_ne_true]
      have hi' : rank i.value ≤ rank first.value := rank_le_of_not_isBetter h hi
      obtain ⟨hbest, hle⟩ := ih h
      rcases hbest with hbest | ⟨hmem, hgt⟩
      · rw [hbest] at hle ⊢
        exact ⟨.inl rfl, List.forall_mem_cons.mpr ⟨hi', hle⟩⟩
      · exact ⟨.inr ⟨.tail _ hmem, hgt⟩, List.forall_mem_cons.mpr ⟨hi'.trans hgt.le, hle⟩⟩

theorem isBestFrom_best (js : List Judgment) : IsBestFrom sentinel js (best js) :=
  isBestFrom_foldl rank_sentinel_ne_bot js

namespace IsBestFrom

variable {i j : Judgment} {js ks : List Judgment}

theorem rank_ne_bot (h : IsBestFrom sentinel js j) : rank j.value ≠ ⊥ := by
  rcases h.eq_or_mem with rfl | ⟨-, hlt⟩
  · exact rank_sentinel_ne_bot
  · exact ne_bot_of_gt hlt

theorem isBetter_eq_false (h : IsBestFrom sentinel js j) (hi : i ∈ js) :
    i.isBetter j = false := by
  rw [Bool.eq_false_iff, ne_eq, isBetter_iff]
  exact fun hb => (h.rank_le i hi).not_gt hb.2

/-- The best of judgments none of which is above −∞ is the sentinel. -/
theorem eq_sentinel (h : IsBestFrom sentinel js j)
    (hjs : ∀ i ∈ js, ¬ sentinel.value < i.value) : j = sentinel := by
  rcases h.eq_or_mem with hj | ⟨hmem, hlt⟩
  · exact hj
  · exact absurd (lt_iff_rank.mpr ⟨rank_sentinel_ne_bot, hlt⟩) (hjs j hmem)

/-- The best of judgments one of which is above −∞ is among them. -/
theorem mem (h : IsBestFrom sentinel js j) (hjs : ∃ i ∈ js, sentinel.value < i.value) :
    j ∈ js := by
  rcases h.eq_or_mem with rfl | ⟨hmem, -⟩
  · obtain ⟨i, hi, hlt⟩ := hjs
    exact absurd (lt_iff_rank.mp hlt).2 (h.rank_le i hi).not_gt
  · exact hmem

theorem rank_le_of_subset (hi : IsBestFrom sentinel js i) (hj : IsBestFrom sentinel ks j)
    (hsub : js ⊆ ks) : rank i.value ≤ rank j.value := by
  rcases hi.eq_or_mem with rfl | ⟨hmem, -⟩
  · rw [rank_sentinel]
    exact rank_negInf_le hj.rank_ne_bot
  · exact hj.rank_le i (hsub hmem)

/-- The order of judgments has no bearing on the value of the best. -/
theorem rank_eq (hi : IsBestFrom sentinel js i) (hj : IsBestFrom sentinel ks j)
    (hp : js.Perm ks) : rank i.value = rank j.value :=
  le_antisymm (hi.rank_le_of_subset hj hp.subset) (hj.rank_le_of_subset hi hp.symm.subset)

theorem beq_value (hi : IsBestFrom sentinel js i) (hj : IsBestFrom sentinel ks j)
    (hp : js.Perm ks) : (i.value == j.value) = true :=
  beq_iff_rank.mpr ⟨hi.rank_ne_bot, hi.rank_eq hj hp⟩

/-- Where all judgments of the best value are the same, their order has no bearing on the best. -/
theorem eq_of_perm (hi : IsBestFrom sentinel js i) (hj : IsBestFrom sentinel ks j)
    (hp : js.Perm ks)
    (huniq : ∀ a ∈ js, ∀ b ∈ js, a.value == i.value → b.value == i.value → a = b) : i = j := by
  have hrank : rank i.value = rank j.value := hi.rank_eq hj hp
  rcases hi.eq_or_mem with hsent | ⟨hmem, hlt⟩
  · rcases hj.eq_or_mem with hsent' | ⟨-, hlt⟩
    · rw [hsent, hsent']
    · rw [← hrank, hsent] at hlt
      exact absurd hlt (lt_irrefl _)
  · rcases hj.eq_or_mem with hsent' | ⟨hmem', -⟩
    · rw [hrank, hsent'] at hlt
      exact absurd hlt (lt_irrefl _)
    · exact huniq i hmem j (hp.mem_iff.mpr hmem')
        (beq_iff_rank.mpr ⟨hi.rank_ne_bot, rfl⟩) (hj.beq_value hi hp.symm)

end IsBestFrom

/-- Judgments of NaN do not count, wherever they stand. -/
theorem best_filter (js : List Judgment) :
    best (js.filter fun j => !j.value.isNaN) = best js := by
  rw [best, best, List.foldl_filter]
  congr 1
  funext choice j
  cases hn : j.value.isNaN with
  | false => rfl
  | true =>
    have hj : j.isBetter choice = false := by
      rw [Bool.eq_false_iff, ne_eq, isBetter_iff, isNaN_iff_rank.mp hn]
      exact fun h => not_lt_bot h.2
    rw [hj]
    rfl

end Judgment

/-! ## Asking a scorer -/

namespace Scorer

/-- The order of the members of a group makes no difference to the scorer. -/
def IgnoresOrder (s : Scorer) : Prop :=
  ∀ g h : Group, g.networkId = h.networkId → g.members.Perm h.members → s.judge g = s.judge h

/-- The judge of a scorer, which notes the network of each group that it is asked about. -/
def noting (s : Scorer) (g : Group) : StateM (List NetworkId) (Option Judgment) := do
  modify (· ++ [g.networkId])
  return s.judge g

theorem run_mapM_noting (s : Scorer) (gs : List Group) (asked : List NetworkId) :
    (gs.mapM s.noting).run asked = pure (gs.map s.judge, asked ++ gs.map Group.networkId) := by
  induction gs generalizing asked with
  | nil => simp
  | cons g gs ih => simp [noting, ih]

end Scorer

namespace Registry

variable {r : Registry} {s : Scorer} {gs : List Group}

/-- Whatever the listing, there is a judgment on the candidates for each network. -/
theorem Lists.perm_judgments (h : r.Lists gs) (hs : s.IgnoresOrder) :
    (s.judgments gs).Perm
      (r.networkIds.filterMap fun id => s.judge ⟨id, r.candidatesFor id⟩) := by
  have hjudge : ∀ g ∈ gs, s.judge g = s.judge ⟨g.networkId, r.candidatesFor g.networkId⟩ :=
    fun g hg => hs g _ rfl (h.perm_members hg)
  rw [Scorer.judgments, List.filterMap_congr hjudge]
  have := h.perm_networkIds.filterMap fun id => s.judge ⟨id, r.candidatesFor id⟩
  rwa [List.filterMap_map] at this

/-- A choice asks the scorer about each group that is listed, once and in order. -/
theorem run_chooseBy_noting (r : Registry) (gs : List Group) (s : Scorer) :
    (r.chooseBy (.ok gs) s.identifier s.noting).run [] =
      pure (r.chooseAmong (.ok gs) s, gs.map Group.networkId) := by
  rw [chooseBy_ok, StateT.run_map, s.run_mapM_noting, map_pure, s.foldl_count_judge,
    chooseAmong_ok, List.nil_append]

theorem answer_chooseAmong_ok (r : Registry) (gs : List Group) (s : Scorer) :
    (r.chooseAmong (.ok gs) s).answer = .ok (s.choose gs) := by
  rw [chooseAmong_ok]
  rfl

/-- There is a choice just when there is room for the groups. -/
theorem MayList.exists_answer_iff {listing : Except Breakdown (List Group)} (h : r.MayList listing)
    (s : Scorer) : (∃ choice, (r.chooseAmong listing s).answer = .ok choice) ↔ r.HasRoom := by
  rw [← h.exists_ok_iff]
  cases listing with
  | ok gs => exact iff_of_true ⟨_, r.answer_chooseAmong_ok gs s⟩ ⟨gs, rfl⟩
  | error e => exact iff_of_false nofun nofun

/-- Whatever the order in which the groups are listed, there is a choice just when there is room
for them. Then the scorer has been asked once about each network, and chosen is the sentinel if no
judgment is above −∞, and otherwise a judgment that no other is better than. A judgment of NaN is
not chosen and does not keep another from being so. The order of the groups makes no difference to
the value of the choice, nor to the choice itself if all judgments with that value are the same. -/
theorem choice_best (r : Registry) {s : Scorer} (hs : s.IgnoresOrder) :
    r.MayList r.groups ∧ r.choose s = r.chooseAmong r.groups s ∧
    (∀ listing, r.MayList listing →
      ((∃ choice, (r.chooseAmong listing s).answer = .ok choice) ↔
        r.size = 0 ∨ r.settings.expectedBssids.toNat < 2 ^ 60)) ∧
    ∀ gs choice, r.MayList (.ok gs) → (r.chooseAmong (.ok gs) s).answer = .ok choice →
      let js := s.judgments gs
      let noted := Id.run ((r.chooseBy (.ok gs) s.identifier s.noting).run [])
      noted.1 = r.chooseAmong (.ok gs) s ∧ noted.2.Perm r.networkIds ∧
      ((∀ j ∈ js, ¬ Judgment.sentinel.value < j.value) → choice = .sentinel) ∧
      ((∃ j ∈ js, Judgment.sentinel.value < j.value) → choice ∈ js) ∧
      choice.value.isNaN = false ∧ (∀ j ∈ js, j.isBetter choice = false) ∧
      choice = .best (js.filter fun j => !j.value.isNaN) ∧
      ∀ gs' choice', r.MayList (.ok gs') → (r.chooseAmong (.ok gs') s).answer = .ok choice' →
        (choice.value == choice'.value) = true ∧
        ((∀ i ∈ js, ∀ j ∈ js, i.value == choice.value → j.value == choice.value → i = j) →
          choice = choice') := by
  refine ⟨r.mayList_groups, rfl, fun listing h => h.exists_answer_iff s, ?_⟩
  intro gs choice hgs hchoice js noted
  have hnoted : noted = (r.chooseAmong (.ok gs) s, gs.map Group.networkId) :=
    congrArg Id.run (r.run_chooseBy_noting gs s)
  rw [answer_chooseAmong_ok] at hchoice
  cases hchoice
  have hbest : Judgment.IsBestFrom .sentinel js (s.choose gs) := Judgment.isBestFrom_best js
  have hnan : (s.choose gs).value.isNaN = false := by
    rw [Bool.eq_false_iff, ne_eq, isNaN_iff_rank]
    exact hbest.rank_ne_bot
  refine ⟨?_, ?_, hbest.eq_sentinel, hbest.mem, hnan, fun j hj => hbest.isBetter_eq_false hj,
    (Judgment.best_filter js).symm, fun gs' choice' hgs' hchoice' => ?_⟩
  · rw [hnoted]
  · rw [hnoted]
    exact hgs.lists.perm_networkIds
  · rw [answer_chooseAmong_ok] at hchoice'
    cases hchoice'
    have hbest' : Judgment.IsBestFrom .sentinel (s.judgments gs') (s.choose gs') :=
      Judgment.isBestFrom_best _
    have hp : js.Perm (s.judgments gs') :=
      (hgs.lists.perm_judgments hs).trans (hgs'.lists.perm_judgments hs).symm
    exact ⟨hbest.beq_value hbest' hp, hbest.eq_of_perm hbest' hp⟩

/-- A choice between NaN on one network and one on another, with the groups in either order. -/
theorem choice_best_atHome :
    let other : Nomination := { Nomination.atHome 0 10 with saved := some (.psk ⟨2⟩ "home") }
    let r := ((fresh {} none).run [.nominate (.atHome 0 10), .nominate other]).registry
    let nan : Judgment := ⟨Float.ofBits 0x7FF8000000000000, Float.ofBits 0, none⟩
    let one : Judgment := ⟨Float.ofBits 0x3FF0000000000000, Float.ofBits 0, none⟩
    let s : Scorer :=
      { identifier := "odd", overridesUser := false
        judge := fun g => if g.networkId = ⟨1⟩ then some nan else some one }
    let gs := Group.ofCandidates r.candidates
    s.IgnoresOrder ∧ r.MayList (.ok gs.reverse) ∧ r.groups = .ok gs ∧
    s.judgments gs.reverse = [nan, one] ∧ s.judgments gs = [one, nan] ∧
    Judgment.sentinel.value < one.value ∧
    ∃ choice, (r.chooseAmong (.ok gs.reverse) s).answer = .ok choice ∧
      choice ∈ s.judgments gs.reverse ∧ choice.value.isNaN = false ∧
      (Id.run ((r.chooseBy (.ok gs.reverse) s.identifier s.noting).run [])).2.Perm [⟨1⟩, ⟨2⟩] ∧
      (r.choose s).answer = .ok choice := by
  intro other r nan one s gs
  have hs : s.IgnoresOrder := by
    intro g h hid _
    change (if g.networkId = ⟨1⟩ then some nan else some one) =
      if h.networkId = ⟨1⟩ then some nan else some one
    rw [hid]
  have hlists : r.Lists gs.reverse := ⟨r.candidates, .refl _, List.reverse_perm _⟩
  have hgs : r.MayList (.ok gs.reverse) := hlists.mayList (by decide)
  have hgroups : r.groups = .ok gs := by decide
  have hjs : s.judgments gs.reverse = [nan, one] := by decide
  have hlt : Judgment.sentinel.value < one.value := by decide
  obtain ⟨hmay, hchoose, hreturns, hchoice⟩ := r.choice_best hs
  rw [hgroups] at hmay hchoose
  obtain ⟨choice, hanswer⟩ := (hreturns _ hgs).mpr (by decide)
  obtain ⟨choice', hanswer'⟩ := (hreturns _ hmay).mpr (by decide)
  obtain ⟨-, hasked, -, hmem, hnan, -, -, hother⟩ := hchoice _ choice hgs hanswer
  have heq : choice = choice' := by
    refine (hother _ choice' hmay hanswer').2 ?_
    have hone : choice = one := by
      rw [answer_chooseAmong_ok] at hanswer
      rw [← Except.ok.inj hanswer]
      decide
    rw [hone, hjs]
    decide
  refine ⟨hs, hgs, hgroups, hjs, by decide, hlt, choice, hanswer, hmem ⟨one, by rw [hjs]; simp, hlt⟩,
    hnan, hasked.trans (by decide), ?_⟩
  rw [hchoose, heq, hanswer']

/-- A registry can be built to expect as many access points as can be counted, and then makes no
choice even among one candidate. -/
theorem choice_best_overflow :
    let settings : Settings := { expectedBssids := 18446744073709551615 }
    let r := ((fresh settings none).run [.nominate (.atHome 0 10)]).registry
    let s : Scorer := { identifier := "silent", overridesUser := false, judge := fun _ => none }
    ofSettings settings = .ok (fresh settings none) ∧ s.IgnoresOrder ∧
      ¬ ∃ choice, (r.choose s).answer = .ok choice := by
  intro settings r s
  have hroom : ¬ r.HasRoom := by decide
  exact ⟨rfl, fun _ _ _ _ => rfl, mt (r.mayList_groups.exists_answer_iff s).mp hroom⟩

end Registry

end WifiArbiter
