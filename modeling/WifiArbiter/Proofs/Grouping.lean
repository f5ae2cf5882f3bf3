import Mathlib.Algebra.Group.Nat.Defs
import Mathlib.Data.List.Induction
import Mathlib.Data.List.Dedup
import Mathlib.Tactic.SplitIfs
import WifiArbiter.Registry.Basic

/-!
# Groupings

The groups of a sequence of candidates are one for each network that occurs, with
the candidates for it in the order in which they come. A registry keeps its
candidates in no particular order, and lists the groups of them in none: any
listing of the groups of its candidates, taken in any order, will do. Where there
is no room for the members that are expected in a group, there is no listing, in
whatever order it is tried.

Results:
* `Group.isGrouping_ofCandidates`: the groups are named for different networks,
  and hold the candidates for them.
* `Group.collect_eq`: the groups are made just when the expected members are fewer
  than 2⁶⁰, or there is no candidate.
* `Registry.mayList_iff`: what listing the groups may come to.
* `Registry.Lists.perm_networkIds`: a listing has one group for each network.
* `Registry.Lists.perm_members`: the members of a group are the same in every listing.
* `Registry.Lists.perm_candidates`, `members_ne_nil`: the members of all groups are the candidates,
  and no group is empty.
-/

namespace WifiArbiter

namespace Group

/-- The groups are one for each network of the candidates, with those for it. -/
structure IsGrouping (gs : List Group) (cs : List Candidate) : Prop where
  nodup : (gs.map networkId).Nodup
  members : ∀ g ∈ gs, g.members = cs.filter (·.slot.networkId = g.networkId)
  mem_networkIds : ∀ id, id ∈ gs.map networkId ↔ id ∈ cs.map (·.slot.networkId)

/-! ## Placing one candidate -/

theorem ofCandidates_concat (cs : List Candidate) (c : Candidate) :
    ofCandidates (cs ++ [c]) = place c (ofCandidates cs) := by
  rw [ofCandidates, List.foldl_append, ← ofCandidates, List.foldl_cons, List.foldl_nil]

/-- A candidate for a network that has a group does not bring another. -/
theorem networkIds_place (c : Candidate) (gs : List Group) :
    (place c gs).map networkId =
      if c.slot.networkId ∈ gs.map networkId then gs.map networkId
      else gs.map networkId ++ [c.slot.networkId] := by
  induction gs with
  | nil => rfl
  | cons g gs ih =>
    rw [place]
    by_cases hg : g.networkId = c.slot.networkId
    · simp [hg]
    · rw [if_neg hg, List.map_cons, ih]
      have hne : c.slot.networkId ≠ g.networkId := Ne.symm hg
      by_cases hm : c.slot.networkId ∈ gs.map networkId
      · rw [if_pos hm, if_pos (by rw [List.map_cons]; exact .tail _ hm), List.map_cons]
      · rw [if_neg hm, if_neg (by rw [List.map_cons, List.mem_cons]; tauto), List.map_cons,
          List.cons_append]

/-- Each group is one of before, or has the candidate as its last member. -/
theorem mem_place {c : Candidate} {g' : Group} {gs : List Group} (hn : (gs.map networkId).Nodup)
    (h : g' ∈ place c gs) :
    g' ∈ gs ∧ g'.networkId ≠ c.slot.networkId ∨
      (∃ g ∈ gs, g.networkId = c.slot.networkId ∧
        g' = { g with members := g.members ++ [c] }) ∨
      c.slot.networkId ∉ gs.map networkId ∧ g' = ⟨c.slot.networkId, [c]⟩ := by
  induction gs with
  | nil =>
    obtain rfl := List.mem_singleton.mp h
    exact .inr (.inr ⟨List.not_mem_nil, rfl⟩)
  | cons g gs ih =>
    rw [List.map_cons, List.nodup_cons] at hn
    rw [place] at h
    split_ifs at h with hg
    · rcases List.mem_cons.mp h with rfl | h
      · exact .inr (.inl ⟨g, .head _, hg, rfl⟩)
      · refine .inl ⟨.tail _ h, fun e => hn.1 ?_⟩
        rw [hg, ← e]
        exact List.mem_map_of_mem h
    · rcases List.mem_cons.mp h with rfl | h
      · exact .inl ⟨.head _, hg⟩
      · rcases ih hn.2 h with ⟨hm, hne⟩ | ⟨g₀, hm, hid, rfl⟩ | ⟨hnot, rfl⟩
        · exact .inl ⟨.tail _ hm, hne⟩
        · exact .inr (.inl ⟨g₀, .tail _ hm, hid, rfl⟩)
        · refine .inr (.inr ⟨?_, rfl⟩)
          rw [List.map_cons, List.mem_cons, not_or]
          exact ⟨Ne.symm hg, hnot⟩

theorem isGrouping_place {gs : List Group} {cs : List Candidate} (h : IsGrouping gs cs)
    (c : Candidate) : IsGrouping (place c gs) (cs ++ [c]) := by
  constructor
  · rw [networkIds_place]
    split_ifs with hm
    · exact h.nodup
    · rw [← List.concat_eq_append]
      exact h.nodup.concat hm
  · intro g' hg'
    rw [List.filter_append]
    rcases mem_place h.nodup hg' with ⟨hm, hne⟩ | ⟨g, hm, hid, rfl⟩ | ⟨hnot, rfl⟩
    · rw [h.members g' hm, List.filter_cons_of_neg (by simpa using hne.symm), List.filter_nil,
        List.append_nil]
    · rw [← h.members g hm, List.filter_cons_of_pos (by simp [hid]), List.filter_nil]
    · -- no candidate so far is for the network of the new group
      have hnone : cs.filter (·.slot.networkId = c.slot.networkId) = [] := by
        rw [List.filter_eq_nil_iff]
        intro d hd hid
        refine hnot ((h.mem_networkIds _).mpr ?_)
        rw [← of_decide_eq_true hid]
        exact List.mem_map_of_mem hd
      rw [hnone, List.filter_cons_of_pos (by simp), List.filter_nil, List.nil_append]
  · intro id
    rw [networkIds_place, List.map_append, List.mem_append, ← h.mem_networkIds]
    split_ifs with hm
    · constructor
      · exact .inl
      · rintro (hid | hid)
        · exact hid
        · rwa [List.mem_singleton.mp hid]
    · exact List.mem_append

/-- The groups of a sequence of candidates are named for different networks, and hold the
candidates for them. -/
theorem isGrouping_ofCandidates (cs : List Candidate) : IsGrouping (ofCandidates cs) cs := by
  induction cs using List.reverseRecOn with
  | nil => exact ⟨List.nodup_nil, fun _ h => absurd h List.not_mem_nil, fun _ => Iff.rfl⟩
  | append_singleton cs c ih =>
    rw [ofCandidates_concat]
    exact isGrouping_place ih c

/-! ## Room -/

/-- There is room for fewer than 2⁶⁰. -/
theorem reserve_eq (expected : UInt64) :
    reserve expected =
      if expected.toNat < 2 ^ 60 then .ok () else .error .capacityOverflow := by
  have hbytes : 8 * expected.toNat < 0x8000000000000000 ↔ expected.toNat < 2 ^ 60 := by omega
  rw [reserve]
  simp only [hbytes]

/-- Where there is room, a candidate is placed and no more. -/
theorem enter_of_lt {expected : UInt64} (h : expected.toNat < 2 ^ 60) :
    enter expected = fun gs c => pure (place c gs) := by
  funext gs c
  rw [enter, reserve_eq, if_pos h]
  split <;> rfl

/-- The groups are made where there is room for the expected members, or there is none to make. -/
theorem collect_eq (expected : UInt64) (cs : List Candidate) :
    collect expected cs =
      if cs = [] ∨ expected.toNat < 2 ^ 60 then .ok (ofCandidates cs)
      else .error .capacityOverflow := by
  by_cases hroom : expected.toNat < 2 ^ 60
  · rw [if_pos (.inr hroom), collect, enter_of_lt hroom, List.foldlM_pure]
    rfl
  · cases cs with
    | nil => rfl
    | cons c cs =>
      -- the group of the first candidate is new, and there is no room for it
      have hfirst : enter expected [] c = .error .capacityOverflow := by
        rw [enter, if_neg (by simp), reserve_eq, if_neg hroom]
        rfl
      rw [if_neg (by simpa using hroom), collect, List.foldlM_cons, hfirst]
      rfl

end Group

/-! ## Listings -/

namespace Registry

/-- Some order of the groups of the candidates in some order. -/
def Lists (r : Registry) (gs : List Group) : Prop :=
  ∃ cs : List Candidate, cs.Perm r.candidates ∧ gs.Perm (Group.ofCandidates cs)

/-- The networks that there are candidates for. -/
def networkIds (r : Registry) : List NetworkId :=
  (r.candidates.map (·.slot.networkId)).dedup

/-- The candidates for a network. -/
def candidatesFor (r : Registry) (id : NetworkId) : List Candidate :=
  r.candidates.filter (·.slot.networkId = id)

/-- What listing the groups may come to, with the candidates gone through and the groups listed
in some order. -/
def MayList (r : Registry) (listing : Except Breakdown (List Group)) : Prop :=
  ∃ cs : List Candidate, cs.Perm r.candidates ∧
    match Group.collect r.settings.expectedBssids cs with
    | .ok gs => ∃ gs' : List Group, gs'.Perm gs ∧ listing = .ok gs'
    | .error e => listing = .error e

/-- There is room for the members that are expected in each group, if there is to be any. -/
def HasRoom (r : Registry) : Prop :=
  r.size = 0 ∨ r.settings.expectedBssids.toNat < 2 ^ 60

instance (r : Registry) : Decidable r.HasRoom :=
  inferInstanceAs (Decidable (r.size = 0 ∨ r.settings.expectedBssids.toNat < 2 ^ 60))

theorem mayList_groups (r : Registry) : r.MayList r.groups := by
  refine ⟨r.candidates, .refl _, ?_⟩
  rw [groups]
  cases Group.collect r.settings.expectedBssids r.candidates with
  | ok gs => exact ⟨gs, .refl _, rfl⟩
  | error e => rfl

/-- Where there is room the groups are listed in some order, and where there is none it breaks
down. -/
theorem mayList_iff {r : Registry} {listing : Except Breakdown (List Group)} :
    r.MayList listing ↔
      if r.HasRoom then ∃ gs, listing = .ok gs ∧ r.Lists gs
      else listing = .error .capacityOverflow := by
  have hroom : ∀ cs : List Candidate, cs.Perm r.candidates →
      (cs = [] ∨ r.settings.expectedBssids.toNat < 2 ^ 60 ↔ r.HasRoom) := fun cs hcs => by
    rw [HasRoom, ← length_candidates, ← hcs.length_eq, List.length_eq_zero_iff]
  split_ifs with h
  · constructor
    · rintro ⟨cs, hcs, hlisting⟩
      rw [Group.collect_eq, if_pos ((hroom cs hcs).mpr h)] at hlisting
      obtain ⟨gs, hgs, rfl⟩ := hlisting
      exact ⟨gs, rfl, cs, hcs, hgs⟩
    · rintro ⟨gs, rfl, cs, hcs, hgs⟩
      refine ⟨cs, hcs, ?_⟩
      rw [Group.collect_eq, if_pos ((hroom cs hcs).mpr h)]
      exact ⟨gs, hgs, rfl⟩
  · constructor
    · rintro ⟨cs, hcs, hlisting⟩
      rwa [Group.collect_eq, if_neg (mt (hroom cs hcs).mp h)] at hlisting
    · rintro rfl
      refine ⟨r.candidates, .refl _, ?_⟩
      rw [Group.collect_eq, if_neg (mt (hroom _ (.refl _)).mp h)]

namespace MayList

variable {r : Registry} {gs : List Group} {listing : Except Breakdown (List Group)}

theorem lists (h : r.MayList (.ok gs)) : r.Lists gs := by
  rw [mayList_iff] at h
  split_ifs at h
  obtain ⟨gs', heq, hlists⟩ := h
  rwa [Except.ok.inj heq]

/-- The groups are listed just when there is room. -/
theorem exists_ok_iff (h : r.MayList listing) : (∃ gs, listing = .ok gs) ↔ r.HasRoom := by
  rw [mayList_iff] at h
  split_ifs at h with hroom
  · obtain ⟨gs, hgs, -⟩ := h
    exact iff_of_true ⟨gs, hgs⟩ hroom
  · rw [h]
    exact iff_of_false nofun hroom

/-- What may be listed may be listed the other way round. -/
theorem map_reverse (h : r.MayList listing) : r.MayList (listing.map List.reverse) := by
  obtain ⟨cs, hcs, hlisting⟩ := h
  refine ⟨cs, hcs, ?_⟩
  cases hcollect : Group.collect r.settings.expectedBssids cs with
  | ok gs =>
    rw [hcollect] at hlisting
    obtain ⟨gs', hgs', rfl⟩ := hlisting
    exact ⟨gs'.reverse, (List.reverse_perm gs').trans hgs', rfl⟩
  | error e =>
    rw [hcollect] at hlisting
    rw [hlisting]
    rfl

theorem eq_error (h : r.MayList listing) (hroom : ¬ r.HasRoom) :
    listing = .error .capacityOverflow := by
  rwa [mayList_iff, if_neg hroom] at h

end MayList

theorem Lists.mayList {r : Registry} {gs : List Group} (h : r.Lists gs) (hroom : r.HasRoom) :
    r.MayList (.ok gs) := by
  rw [mayList_iff, if_pos hroom]
  exact ⟨gs, rfl, h⟩

namespace Lists

variable {r : Registry} {gs : List Group}

/-- A listing has one group for each network that there are candidates for. -/
theorem perm_networkIds (h : r.Lists gs) : (gs.map Group.networkId).Perm r.networkIds := by
  obtain ⟨cs, hcs, hgs⟩ := h
  have hg := Group.isGrouping_ofCandidates cs
  have hids : (gs.map Group.networkId).Perm ((Group.ofCandidates cs).map Group.networkId) :=
    hgs.map _
  refine hids.trans ((List.perm_ext_iff_of_nodup hg.nodup (List.nodup_dedup _)).mpr fun id => ?_)
  rw [hg.mem_networkIds, List.mem_dedup]
  exact (hcs.map _).mem_iff

theorem nodup_networkIds (h : r.Lists gs) : (gs.map Group.networkId).Nodup :=
  h.perm_networkIds.nodup_iff.mpr (List.nodup_dedup _)

/-- The members of a group are the candidates for its network, in some order. -/
theorem perm_members (h : r.Lists gs) {g : Group} (hg : g ∈ gs) :
    g.members.Perm (r.candidatesFor g.networkId) := by
  obtain ⟨cs, hcs, hgs⟩ := h
  rw [(Group.isGrouping_ofCandidates cs).members g (hgs.mem_iff.mp hg)]
  exact hcs.filter _

/-- The members of the groups are the candidates. -/
theorem perm_candidates (h : r.Lists gs) : (gs.flatMap Group.members).Perm r.candidates := by
  obtain ⟨cs, hcs, hgs⟩ := h
  exact (hgs.flatMap_right _).trans ((Group.perm_members_ofCandidates cs).trans hcs)

theorem exists_mem_iff (h : r.Lists gs) {c : Candidate} :
    (∃ g ∈ gs, c ∈ g.members) ↔ c ∈ r.candidates := by
  rw [← List.mem_flatMap, h.perm_candidates.mem_iff]

/-- A group is the only one for its network. -/
theorem eq_of_networkId_eq (h : r.Lists gs) {g g' : Group} (hg : g ∈ gs) (hg' : g' ∈ gs)
    (hid : g.networkId = g'.networkId) : g = g' :=
  List.inj_on_of_nodup_map h.nodup_networkIds hg hg' hid

/-- No group is empty. -/
theorem members_ne_nil (h : r.Lists gs) {g : Group} (hg : g ∈ gs) : g.members ≠ [] := by
  have hid : g.networkId ∈ r.networkIds :=
    h.perm_networkIds.mem_iff.mp (List.mem_map_of_mem hg)
  obtain ⟨c, hc, hcid⟩ := List.mem_map.mp (List.mem_dedup.mp hid)
  have hmem : c ∈ r.candidatesFor g.networkId := List.mem_filter.mpr ⟨hc, by simpa using hcid⟩
  exact List.ne_nil_of_mem ((h.perm_members hg).mem_iff.mpr hmem)

end Lists

end Registry

end WifiArbiter
