import WifiArbiter.Proofs.LiveChoice
import WifiArbiter.Proofs.Occupancy

/-!
# Cohesion

Groups are made by the identifiers of the saved networks alone, whereas a slot is of a logical
network, an access point and an identifier. Where saved networks with one identifier are always
of one logical network, a group is just that network: all its members are of the network that is
saved under the identifier, no access point is in it twice, and its length is the number of the
access points that are held for the network.

Results:
* `Registry.saved_mem_run`: the saved network of a candidate is one that was passed on.
* `Registry.Lists.nodup_slots`: the members of a group are in different slots.
* `Registry.cohesion_run`: the groups in every state of every run.
-/

namespace WifiArbiter

/-! ## Saved networks by identifier -/

/-- The saved network that a call passes on. -/
def Call.saved? : Call → Option SavedNetwork
  | .nominate n => n.saved
  | .remove _ | .clearFaults | .setStrict _ | .choose _ => none

/-- The saved networks that calls pass on. -/
def savedNetworks (calls : List Call) : List SavedNetwork :=
  calls.filterMap Call.saved?

/-- Saved networks that are passed on with the same identifier have the same name and the same
security class. -/
def IsKeyed (calls : List Call) : Prop :=
  ∀ a ∈ savedNetworks calls, ∀ b ∈ savedNetworks calls,
    a.id = b.id → a.ssid = b.ssid ∧ a.security = b.security

instance (calls : List Call) : Decidable (IsKeyed calls) :=
  inferInstanceAs (Decidable (∀ a ∈ savedNetworks calls, ∀ b ∈ savedNetworks calls, _ → _))

theorem IsKeyed.logical_eq {calls : List Call} (h : IsKeyed calls) {a b : SavedNetwork}
    (ha : a ∈ savedNetworks calls) (hb : b ∈ savedNetworks calls) (hid : a.id = b.id) :
    a.logical = b.logical := by
  obtain ⟨hssid, hsecurity⟩ := h a ha b hb hid
  rw [SavedNetwork.logical, SavedNetwork.logical, hssid, hsecurity]

namespace Registry

/-- Whatever the calls, each candidate that is left has a saved network that one of them passed
on. -/
theorem saved_mem_run (settings : Settings) (signals : Option SignalHistory) (calls : List Call)
    {slot : Slot} {c : Candidate}
    (h : ((fresh settings signals).run calls).registry.get? slot = some c) :
    c.saved ∈ savedNetworks calls := by
  let P (past : List Step) (r : Registry) : Prop :=
    ∀ slot c, r.get? slot = some c → ∃ s ∈ past, s.call.saved? = some c.saved
  have hstart : P [] (fresh settings signals) := fun _ _ hc => by simp at hc
  have hstep (past : List Step) (s : Step) (ih : P past s.before) : P (past ++ [s]) s.after := by
    intro slot c hc
    rcases get?_after_cases hc with hb | ⟨n, hn, hcandidate, -⟩
    · obtain ⟨t, ht, hsaved⟩ := ih slot c hb
      exact ⟨t, List.mem_append_left _ ht, hsaved⟩
    · refine ⟨s, List.mem_append_right _ (List.mem_singleton.mpr rfl), ?_⟩
      rw [hn]
      exact (Nomination.candidate_eq_ok_iff.mp hcandidate).saved
  obtain ⟨s, hs, hsaved⟩ := run_induction (P := P) hstart hstep calls slot c h
  exact List.mem_filterMap.mpr ⟨s.call, call_mem_of_mem_steps hs, hsaved⟩

/-! ## Groups -/

/-- The access points that are held for a saved network. -/
def accessPoints (r : Registry) (id : NetworkId) : Set MacAddress :=
  {bssid | ∃ slot, r.get? slot ≠ none ∧ slot.networkId = id ∧ slot.bssid = bssid}

namespace Lists

variable {r : Registry} {gs : List Group} {g : Group}

/-- The members of a group of a coherent registry are in different slots. -/
theorem nodup_slots (h : r.Lists gs) (hr : r.IsCoherent) (hg : g ∈ gs) :
    (g.members.map Candidate.slot).Nodup := by
  rw [((h.perm_members hg).map _).nodup_iff]
  exact hr.nodup_slots.sublist (List.filter_sublist.map _)

/-- The access points of the members of a group are those that are held for its network. -/
theorem mem_accessPoints_iff (h : r.Lists gs) (hr : r.IsCoherent) (hg : g ∈ gs)
    {bssid : MacAddress} :
    bssid ∈ r.accessPoints g.networkId ↔ bssid ∈ g.members.map (·.slot.bssid) := by
  rw [List.mem_map]
  constructor
  · rintro ⟨slot, hslot, hid, rfl⟩
    obtain ⟨c, hc⟩ := Option.ne_none_iff_exists'.mp hslot
    have heq : c.slot = slot := hr.slot_eq hc
    have hfor : c ∈ r.candidatesFor g.networkId :=
      List.mem_filter.mpr ⟨Table.mem_values_iff.mpr ⟨slot, hc⟩, by simpa [heq] using hid⟩
    exact ⟨c, (h.perm_members hg).mem_iff.mpr hfor, by rw [heq]⟩
  · rintro ⟨c, hc, rfl⟩
    refine ⟨c.slot, ?_, (h.mem_of_mem hg hc).2, rfl⟩
    rw [h.get?_of_mem hr hg hc]
    exact Option.some_ne_none c

/-- Where the members of a group are of one logical network, they are of different access
points. -/
theorem nodup_bssids (h : r.Lists gs) (hr : r.IsCoherent) (hg : g ∈ gs) {l : LogicalNetwork}
    (hl : ∀ c ∈ g.members, c.slot.network = l) : (g.members.map (·.slot.bssid)).Nodup := by
  have hslot : ∀ s ∈ g.members.map Candidate.slot, s = ⟨l, s.bssid, g.networkId⟩ := by
    intro s hs
    obtain ⟨c, hc, rfl⟩ := List.mem_map.mp hs
    rw [← hl c hc, ← (h.mem_of_mem hg hc).2]
  have hinj : ∀ s ∈ g.members.map Candidate.slot, ∀ t ∈ g.members.map Candidate.slot,
      s.bssid = t.bssid → s = t := by
    intro s hs t ht hbssid
    calc s = ⟨l, s.bssid, g.networkId⟩ := hslot s hs
      _ = ⟨l, t.bssid, g.networkId⟩ := by rw [hbssid]
      _ = t := (hslot t ht).symm
  have hbssids := List.Nodup.map_on hinj (h.nodup_slots hr hg)
  rwa [List.map_map] at hbssids

end Lists

/-- In every state of every run in which saved networks are told apart by their identifiers, and
whatever the order in which the groups are listed, a group is for a saved network that was passed
on. All its members are of the logical network of that saved network, and of different access
points, as many as are held for it. The groups can be listed just when there is room for them. -/
theorem cohesion_run (settings : Settings) (signals : Option SignalHistory) {calls : List Call}
    (hcalls : IsKeyed calls) :
    let r := ((fresh settings signals).run calls).registry
    (∀ gs, r.groups = .ok gs → r.Lists gs) ∧
    ((∃ gs, r.groups = .ok gs) ↔ r.size = 0 ∨ settings.expectedBssids.toNat < 2 ^ 60) ∧
    ∀ gs, r.Lists gs → ∀ g ∈ gs,
      (∃ saved ∈ savedNetworks calls, saved.id = g.networkId) ∧
      (∀ saved ∈ savedNetworks calls, saved.id = g.networkId →
        ∀ c ∈ g.members, c.slot.network = saved.logical) ∧
      (g.members.map (·.slot.bssid)).Nodup ∧
      (r.accessPoints g.networkId).encard = g.members.length := by
  intro r
  have hr : r.IsCoherent := isCoherent_run settings signals calls
  have hlisting := r.mayList_groups
  refine ⟨fun gs h => ?_, ?_, fun gs h g hg => ?_⟩
  · rw [h] at hlisting
    exact hlisting.lists
  · rw [hlisting.exists_ok_iff, hasRoom_run_iff]
  have hmember {c : Candidate} (hc : c ∈ g.members) :
      c.saved ∈ savedNetworks calls ∧ c.saved.id = g.networkId ∧
        c.saved.logical = c.slot.network := by
    have hget : r.get? c.slot = some c := h.get?_of_mem hr hg hc
    have hcoherent := hr.coherent hget
    exact ⟨saved_mem_run settings signals calls hget,
      hcoherent.saved_id.trans (h.mem_of_mem hg hc).2, hcoherent.saved_logical⟩
  have hnetwork : ∀ saved ∈ savedNetworks calls, saved.id = g.networkId →
      ∀ c ∈ g.members, c.slot.network = saved.logical := by
    intro saved hsaved hid c hc
    obtain ⟨hmem, hcid, hlogical⟩ := hmember hc
    rw [← hlogical]
    exact hcalls.logical_eq hmem hsaved (hcid.trans hid.symm)
  obtain ⟨c, hc⟩ := List.exists_mem_of_ne_nil _ (h.members_ne_nil hg)
  obtain ⟨hmem, hid, -⟩ := hmember hc
  have hnodup := h.nodup_bssids hr hg (hnetwork c.saved hmem hid)
  refine ⟨⟨c.saved, hmem, hid⟩, hnetwork, hnodup, ?_⟩
  rw [encard_eq_length hnodup fun _ => h.mem_accessPoints_iff hr hg, List.length_map]

/-- Two access points of one network, the first of them also under another identifier. -/
theorem cohesion_run_atHome :
    let guest : Nomination := { Nomination.atHome 0 10 with saved := some (.psk ⟨2⟩ "home") }
    let upstairs : Nomination := { Nomination.atHome 0 10 with
      sighting := some ⟨some { ScanResult.atHome with bssid := "00-11-22-33-44-AC" }, ⟨1000⟩⟩ }
    let calls : List Call := [.nominate (.atHome 0 10), .nominate guest, .remove none,
      .setStrict true, .nominate upstairs]
    let r := ((fresh {} none).run calls).registry
    ∃ gs, r.groups = .ok gs ∧ gs.length = 2 ∧ ∃ g ∈ gs, g.networkId = ⟨1⟩ ∧
      g.members.length = 2 ∧ IsKeyed calls ∧ (∀ c ∈ g.members, c.slot.network = ⟨"home", .psk⟩) ∧
      (g.members.map (·.slot.bssid)).Nodup ∧ (r.accessPoints g.networkId).encard = 2 := by
  intro guest upstairs calls r
  have hgroups : r.groups = .ok (Group.ofCandidates r.candidates) := by decide
  have hgroup : ∃ g ∈ Group.ofCandidates r.candidates, g.networkId = ⟨1⟩ ∧ g.members.length = 2 := by
    decide
  have hkeyed : IsKeyed calls := by decide
  have hmem : SavedNetwork.psk ⟨1⟩ "home" ∈ savedNetworks calls := by decide
  obtain ⟨g, hg, hid, htwo⟩ := hgroup
  obtain ⟨hlists, -, hcohesive⟩ := cohesion_run {} none hkeyed
  obtain ⟨-, hnetwork, hnodup, hcard⟩ := hcohesive _ (hlists _ hgroups) g hg
  rw [htwo] at hcard
  exact ⟨_, hgroups, by decide, g, hg, hid, htwo, hkeyed, hnetwork _ hmem hid.symm, hnodup, hcard⟩

end Registry

end WifiArbiter
