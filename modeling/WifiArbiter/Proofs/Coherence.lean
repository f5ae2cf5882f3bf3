import WifiArbiter.Proofs.History

/-!
# Coherence

A candidate is coherent when its records say what its slot says: both the saved
network and the scan result are of the slot's logical network, the identifier is
that of the saved network, and the reported address reads as the slot's. Nothing
but coherent candidates, each in its own slot, is ever found in a registry.

Results:
* `Nomination.candidate_eq_ok_iff`: which candidates a nomination proposes.
* `Registry.isCoherent_run`: every run leaves a coherent registry.
* `Registry.coherence_run`: what this says of the entries and of the candidates.
-/

namespace WifiArbiter

/-- The records of a candidate say what its slot says. -/
structure Candidate.IsCoherent (c : Candidate) : Prop where
  saved_logical : c.saved.logical = c.slot.network
  scan_logical : c.scan.logical = c.slot.network
  saved_id : c.saved.id = c.slot.networkId
  parse_bssid : MacAddress.parse c.scan.bssid = .ok c.slot.bssid

/-- The candidate has the records, the nominator and the score of the nomination, and is
coherent. -/
structure Nomination.Proposes (n : Nomination) (c : Candidate) : Prop where
  saved : n.saved = some c.saved
  sighting : n.sighting = some ⟨some c.scan, c.seen⟩
  nominator : n.nominator = c.nominator
  score : n.score = c.score
  coherent : c.IsCoherent

/-- A registry of coherent candidates, each in its own slot. -/
structure Registry.IsCoherent (r : Registry) : Prop where
  slot_eq : ∀ {slot : Slot} {c : Candidate}, r.get? slot = some c → c.slot = slot
  coherent : ∀ {slot : Slot} {c : Candidate}, r.get? slot = some c → c.IsCoherent

/-! ## Nominations -/

namespace Nomination

/-- A nomination puts forward just the candidate that it proposes. -/
theorem candidate_eq_ok_iff {n : Nomination} {c : Candidate} :
    n.candidate = .ok c ↔ n.Proposes c := by
  constructor
  · intro h
    unfold candidate at h
    split at h
    · cases h
    · cases h
    · rename_i saved sighting hs hg
      split at h
      · cases h
      · rename_i scan hr
        split at h
        · cases h
        · rename_i bssid hb
          split_ifs at h with hl
          cases h
          exact ⟨hs, hg.trans (congrArg some (by rw [← hr])), rfl, rfl, rfl, hl.symm, rfl, hb⟩
  · rintro ⟨hs, hg, hn, hc, h⟩
    have hl : c.saved.logical = c.scan.logical := h.saved_logical.trans h.scan_logical.symm
    simp only [candidate, hs, hg, h.parse_bssid, hl, ↓reduceIte]
    rw [h.scan_logical, h.saved_id, hn, hc]

end Nomination

/-! ## Registries -/

namespace Registry

theorem isCoherent_fresh (settings : Settings) (signals : Option SignalHistory) :
    (fresh settings signals).IsCoherent :=
  ⟨fun h => by simp at h, fun h => by simp at h⟩

/-- A slot holds what it held before or a candidate that was put forward for it. -/
theorem get?_after_cases {s : Step} {slot : Slot} {c : Candidate} (h : s.after.get? slot = some c) :
    s.before.get? slot = some c ∨
      ∃ n, s.call = .nominate n ∧ n.candidate = .ok c ∧ c.slot = slot := by
  cases ho : s.outcome with
  | none =>
    rw [Step.get?_after_of_none ho] at h
    exact .inl h
  | some o =>
    rw [Step.get?_after_of_outcome ho] at h
    rcases Outcome.occupant_eq_some h with hb | ⟨he, hslot⟩
    · exact .inl hb
    · obtain ⟨n, hn, hc⟩ := candidate_of_entrant? ho he
      exact .inr ⟨n, hn, hc, hslot⟩

theorem isCoherent_after {s : Step} (h : s.before.IsCoherent) : s.after.IsCoherent := by
  constructor
  · intro slot c hc
    rcases get?_after_cases hc with hb | ⟨_, _, _, hslot⟩
    · exact h.slot_eq hb
    · exact hslot
  · intro slot c hc
    rcases get?_after_cases hc with hb | ⟨_, _, hn, _⟩
    · exact h.coherent hb
    · exact (Nomination.candidate_eq_ok_iff.mp hn).coherent

/-- Every run leaves a coherent registry. -/
theorem isCoherent_run (settings : Settings) (signals : Option SignalHistory)
    (calls : List Call) : ((fresh settings signals).run calls).registry.IsCoherent :=
  run_induction (P := fun _ r => r.IsCoherent) (isCoherent_fresh settings signals)
    (fun _ _ h => isCoherent_after h) calls

/-- The candidates of a coherent registry are in different slots. -/
theorem IsCoherent.nodup_slots {r : Registry} (h : r.IsCoherent) :
    (r.candidates.map Candidate.slot).Nodup := by
  have keys : r.candidates.map Candidate.slot = r.occupants.entries.map Prod.fst := by
    rw [candidates, Table.values, List.map_map]
    apply List.map_congr_left
    rintro ⟨slot, c⟩ he
    exact h.slot_eq (Table.mem_entries_iff.mp he)
  rw [keys]
  exact r.occupants.nodup_keys

/-- The candidates of a coherent registry are in their slots. -/
theorem IsCoherent.get?_of_mem {r : Registry} (h : r.IsCoherent) {c : Candidate}
    (hc : c ∈ r.candidates) : r.get? c.slot = some c := by
  obtain ⟨slot, hslot⟩ := Table.mem_values_iff.mp hc
  have hget : r.get? slot = some c := hslot
  rwa [h.slot_eq hget]

/-- In every state of every run, each candidate stands in its own slot, and the slot is made of
the logical network of both its records, the address that the scan result reports and the
identifier of the saved network. So the candidates are as many as the slots, and in different
slots. -/
theorem coherence_run (settings : Settings) (signals : Option SignalHistory) (calls : List Call) :
    let r := ((fresh settings signals).run calls).registry
    (∀ slot c, (slot, c) ∈ r.occupants.entries →
      c.slot = slot ∧
      slot.network = c.saved.logical ∧ slot.network = c.scan.logical ∧
      c.saved.ssid = c.scan.ssid ∧ c.saved.security = .ofText c.scan.capabilities ∧
      slot.networkId = c.saved.id ∧ MacAddress.parse c.scan.bssid = .ok slot.bssid) ∧
    r.candidates.length = r.size ∧ (r.candidates.map Candidate.slot).Nodup := by
  intro r
  have hr : r.IsCoherent := isCoherent_run settings signals calls
  refine ⟨?_, List.length_map _, hr.nodup_slots⟩
  intro slot c hc
  have hget : r.get? slot = some c := Table.mem_entries_iff.mp hc
  have hslot : c.slot = slot := hr.slot_eq hget
  have hcoh : c.IsCoherent := hr.coherent hget
  have hlogical : c.saved.logical = c.scan.logical :=
    hcoh.saved_logical.trans hcoh.scan_logical.symm
  subst hslot
  exact ⟨rfl, hcoh.saved_logical.symm, hcoh.scan_logical.symm,
    congrArg LogicalNetwork.ssid hlogical, congrArg LogicalNetwork.security hlogical,
    hcoh.saved_id.symm, hcoh.parse_bssid⟩

end Registry

/-! ## At home -/

/-- A scan result of the access point at home, with hyphens in its address. -/
def ScanResult.atHome : ScanResult :=
  { ssid := "home", bssid := "00-11-22-33-44-AB", capabilities := "[WPA2-PSK-CCMP][ESS]"
    level := -60, frequency := 5180 }

/-- A nomination of the access point at home. -/
def Nomination.atHome (nominator : UInt32) (score : Int32) : Nomination :=
  { sighting := some ⟨some .atHome, ⟨1000⟩⟩, saved := some (.psk ⟨1⟩ "home"), nominator, score }

/-- The candidate in that nomination. -/
def Candidate.atHome (nominator : UInt32) (score : Int32) : Candidate :=
  { slot := ⟨⟨"home", .psk⟩, ⟨[0x00, 0x11, 0x22, 0x33, 0x44, 0xAB], rfl⟩, ⟨1⟩⟩
    scan := .atHome, seen := ⟨1000⟩, saved := .psk ⟨1⟩ "home", nominator, score }

namespace Registry

/-- Coherence of the candidate that is left after it has taken the place of another. -/
theorem coherence_run_atHome :
    let c := Candidate.atHome 0 20
    let r := ((fresh {} none).run [.nominate (.atHome 0 10), .nominate (.atHome 0 20)]).registry
    (c.slot, c) ∈ r.occupants.entries ∧ MacAddress.parse c.scan.bssid = .ok c.slot.bssid := by
  intro c r
  have hc : (c.slot, c) ∈ r.occupants.entries := by decide
  obtain ⟨-, -, -, -, -, -, hb⟩ := (coherence_run {} none _).1 c.slot c hc
  exact ⟨hc, hb⟩

end Registry

end WifiArbiter
