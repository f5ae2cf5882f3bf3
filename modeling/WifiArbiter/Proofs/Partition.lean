import WifiArbiter.Proofs.LiveChoice

/-!
# Partition

The groups of a registry are a partition of its candidates. Each candidate is a member of one group
and is so once, whatever the order in which the candidates are gone through and the groups are
listed, and there is a group for each network that has a candidate, saved or not, and for no other.

Results:
* `Registry.Lists.mem_networkIds_iff`: the networks that have a group.
* `Registry.Lists.existsUnique_group`, `count_members`: each candidate is in one group, once.
* `Registry.partition_run`: the groups in every state of every run.
-/

namespace WifiArbiter

namespace Registry

theorem IsCoherent.nodup_candidates {r : Registry} (hr : r.IsCoherent) : r.candidates.Nodup :=
  hr.nodup_slots.of_map _

namespace Lists

variable {r : Registry} {gs : List Group}

/-- There is a group for each network that has a candidate in a slot, and for no other. -/
theorem mem_networkIds_iff (h : r.Lists gs) {id : NetworkId} :
    id ∈ gs.map Group.networkId ↔ ∃ slot c, r.get? slot = some c ∧ c.slot.networkId = id := by
  rw [h.perm_networkIds.mem_iff, networkIds, List.mem_dedup, List.mem_map]
  constructor
  · rintro ⟨c, hc, hid⟩
    obtain ⟨slot, hslot⟩ := Table.mem_values_iff.mp hc
    exact ⟨slot, c, hslot, hid⟩
  · rintro ⟨slot, c, hslot, hid⟩
    exact ⟨c, Table.mem_values_iff.mpr ⟨slot, hslot⟩, hid⟩

/-- Each candidate is in just one group. -/
theorem existsUnique_group (h : r.Lists gs) {c : Candidate} (hc : c ∈ r.candidates) :
    ∃! g, g ∈ gs ∧ c ∈ g.members := by
  obtain ⟨g, hg, hmem⟩ := h.exists_mem_iff.mpr hc
  refine ⟨g, ⟨hg, hmem⟩, fun g' ⟨hg', hmem'⟩ => ?_⟩
  exact h.eq_of_networkId_eq hg' hg
    ((h.mem_of_mem hg' hmem').2.symm.trans (h.mem_of_mem hg hmem).2)

/-- Each candidate is among the members of all groups once. -/
theorem count_members (h : r.Lists gs) (hr : r.IsCoherent) {c : Candidate}
    (hc : c ∈ r.candidates) : (gs.flatMap Group.members).count c = 1 := by
  rw [h.perm_candidates.count_eq]
  exact List.count_eq_one_of_mem hr.nodup_candidates hc

end Lists

/-- In every state of every run, whatever the order in which the candidates are gone through and the
groups are listed, the groups can be listed just when there is room for them, or no candidate. Then
no group is empty; the groups are for different networks, and these are the networks of the
candidates in the slots; the members of a group are for its network; and the members of all groups
are the candidates, each of them in one group, and once. -/
theorem partition_run (settings : Settings) (signals : Option SignalHistory) (calls : List Call) :
    let r := ((fresh settings signals).run calls).registry
    r.MayList r.groups ∧
    (∀ listing, r.MayList listing →
      ((∃ gs, listing = .ok gs) ↔ r.size = 0 ∨ settings.expectedBssids.toNat < 2 ^ 60)) ∧
    ∀ gs, r.MayList (.ok gs) →
      (∀ g ∈ gs, g.members ≠ []) ∧
      (gs.map Group.networkId).Nodup ∧
      (∀ id, id ∈ gs.map Group.networkId ↔
        ∃ slot c, r.get? slot = some c ∧ c.slot.networkId = id) ∧
      (∀ g ∈ gs, ∀ c ∈ g.members, c.slot.networkId = g.networkId) ∧
      (gs.flatMap Group.members).Perm r.candidates ∧
      ∀ c ∈ r.candidates, (gs.flatMap Group.members).count c = 1 ∧
        ∃! g, g ∈ gs ∧ c ∈ g.members := by
  intro r
  have hr : r.IsCoherent := isCoherent_run settings signals calls
  refine ⟨r.mayList_groups, fun listing h => ?_, fun gs hlisting => ?_⟩
  · rw [h.exists_ok_iff, hasRoom_run_iff]
  · have h : r.Lists gs := hlisting.lists
    exact ⟨fun g => h.members_ne_nil, h.nodup_networkIds, fun id => h.mem_networkIds_iff,
      fun g hg c hc => (h.mem_of_mem hg hc).2, h.perm_candidates,
      fun c hc => ⟨h.count_members hr hc, h.existsUnique_group hc⟩⟩

/-- Two candidates of one network, and a third between them of one that has not been saved, in
groups that are listed the other way round. -/
theorem partition_run_atHome :
    let unsaved : Nomination := { Nomination.atHome 0 10 with saved := some (.psk .unsaved "home") }
    let upstairs : Nomination := { Nomination.atHome 0 10 with
      sighting := some ⟨some { ScanResult.atHome with bssid := "00-11-22-33-44-AC" }, ⟨1000⟩⟩ }
    let calls : List Call := [.nominate (.atHome 0 10), .nominate unsaved, .nominate upstairs]
    let r := ((fresh { expectedBssids := 1 } none).run calls).registry
    let gs := (Group.ofCandidates r.candidates.reverse).reverse
    let c := Candidate.atHome 0 10
    r.MayList (.ok gs) ∧ c ∈ r.candidates ∧ r.candidates.length = 3 ∧
    (∃ gs', r.groups = .ok gs') ∧ gs.map (·.members.length) = [1, 2] ∧
    NetworkId.unsaved ∈ gs.map Group.networkId ∧ (gs.flatMap Group.members).Perm r.candidates ∧
    (gs.flatMap Group.members).count c = 1 ∧ ∃! g, g ∈ gs ∧ c ∈ g.members := by
  intro unsaved upstairs calls r gs c
  have hlists : r.Lists gs := ⟨r.candidates.reverse, List.reverse_perm _, List.reverse_perm _⟩
  have hlisting : r.MayList (.ok gs) := hlists.mayList (by decide)
  have hc : c ∈ r.candidates := by decide
  obtain ⟨hgroups, hreturns, hpartition⟩ := partition_run { expectedBssids := 1 } none calls
  obtain ⟨-, -, hids, -, hperm, honce⟩ := hpartition gs hlisting
  have hslot : ∃ slot c, r.get? slot = some c ∧ c.slot.networkId = .unsaved :=
    ⟨⟨⟨"home", .psk⟩, c.slot.bssid, .unsaved⟩, _, rfl, rfl⟩
  obtain ⟨hcount, hunique⟩ := honce c hc
  exact ⟨hlisting, hc, by decide, (hreturns _ hgroups).mpr (by decide), by decide,
    (hids _).mpr hslot, hperm, hcount, hunique⟩

/-- A registry can be built to expect as many access points as can be counted, and then its only
candidate cannot be listed. -/
theorem partition_run_overflow :
    let settings : Settings := { expectedBssids := 18446744073709551615 }
    let r := ((fresh settings none).run [.nominate (.atHome 0 10)]).registry
    ofSettings settings = .ok (fresh settings none) ∧ 0 < settings.expectedBssids ∧
      r.candidates = [.atHome 0 10] ∧ ¬ ∃ listing gs, r.MayList listing ∧ listing = .ok gs := by
  intro settings r
  have hroom : ¬ r.HasRoom := by decide
  refine ⟨rfl, by decide, by decide, ?_⟩
  rintro ⟨listing, gs, h, hgs⟩
  exact hroom (h.exists_ok_iff.mp ⟨gs, hgs⟩)

end Registry

end WifiArbiter
