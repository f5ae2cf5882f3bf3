import WifiArbiter.Proofs.Occupancy
import WifiArbiter.Proofs.Strictness

/-!
# Noninterference

What a registry does with a nomination depends on the slot that it is for, on the nominator and
on the score, and on nothing else in its records. An address may be written in another way, the
same security class advertised by another text, and the signal, the channel, the times and the
marks of the saved network may be any at all: two runs of nominations that differ in nothing more
are answered alike and reported alike, and leave occupants of the same nominators with the same
scores in the same slots. The occupants themselves do differ.

Results:
* `Nomination.Resembles.candidate`: nominations that resemble each other have the same fault, or
  candidates that resemble each other.
* `Registry.Resembles.outcome`, `Registry.Resembles.settle`: what they come to, and what that does.
* `Registry.Resembles.run`: runs of such nominations, on registries that resemble each other.
* `Registry.noninterference_run`: the same in terms of what can be seen, call by call.
-/

namespace WifiArbiter

/-! ## Records that resemble each other -/

/-- Two scan results are of one network, of one security class, and of one access point: the
address is reported by the same text, or by texts that are read as the same address. -/
structure ScanResult.Resembles (a b : ScanResult) : Prop where
  ssid : a.ssid = b.ssid
  security : SecurityClass.ofText a.capabilities = .ofText b.capabilities
  bssid : a.bssid = b.bssid ∨
    ∃ address, MacAddress.parse a.bssid = .ok address ∧ MacAddress.parse b.bssid = .ok address

/-- Two sightings lack their results, or have results that resemble each other. -/
def Sighting.Resembles (a b : Sighting) : Prop :=
  Option.Rel ScanResult.Resembles a.result b.result

/-- Two saved networks have the same identifier, name and security class. -/
structure SavedNetwork.Resembles (a b : SavedNetwork) : Prop where
  id : a.id = b.id
  ssid : a.ssid = b.ssid
  security : a.security = b.security

/-- Two nominations lack the same records, have others that resemble each other, and are of the
same nominator with the same score. -/
structure Nomination.Resembles (m n : Nomination) : Prop where
  sighting : Option.Rel Sighting.Resembles m.sighting n.sighting
  saved : Option.Rel SavedNetwork.Resembles m.saved n.saved
  nominator : m.nominator = n.nominator
  score : m.score = n.score

/-- Two candidates are for the same slot and of the same nominator, with the same score. -/
structure Candidate.Resembles (c d : Candidate) : Prop where
  slot : c.slot = d.slot
  nominator : c.nominator = d.nominator
  score : c.score = d.score

theorem ScanResult.Resembles.logical {a b : ScanResult} (h : a.Resembles b) :
    a.logical = b.logical := by
  rw [ScanResult.logical, ScanResult.logical, h.ssid, h.security]

theorem SavedNetwork.Resembles.logical {a b : SavedNetwork} (h : a.Resembles b) :
    a.logical = b.logical := by
  rw [SavedNetwork.logical, SavedNetwork.logical, h.ssid, h.security]

/-- Either both addresses are read, and as the same, or they are the same text and have the same
fault. -/
theorem ScanResult.Resembles.parse {a b : ScanResult} (h : a.Resembles b) :
    (∃ address, MacAddress.parse a.bssid = .ok address ∧ MacAddress.parse b.bssid = .ok address) ∨
      ∃ cause, MacAddress.parse a.bssid = .error cause ∧ MacAddress.parse b.bssid = .error cause ∧
        a.bssid = b.bssid := by
  rcases h.bssid with heq | hread
  · cases hp : MacAddress.parse a.bssid with
    | error cause => exact .inr ⟨cause, rfl, heq ▸ hp, heq⟩
    | ok address => exact .inl ⟨address, rfl, heq ▸ hp⟩
  · exact .inl hread

/-- Nominations with all their records, which resemble each other, have the same fault or have
candidates that do. -/
theorem Nomination.candidate_of_resembles {saved saved' : SavedNetwork} {scan scan' : ScanResult}
    (hsaved : saved.Resembles saved') (hscan : scan.Resembles scan') (seen seen' : Timestamp)
    (i : UInt32) (score : Int32) :
    let m : Nomination := ⟨some ⟨some scan, seen⟩, some saved, i, score⟩
    let n : Nomination := ⟨some ⟨some scan', seen'⟩, some saved', i, score⟩
    (∃ f, m.candidate = .error f ∧ n.candidate = .error f) ∨
      ∃ c d, m.candidate = .ok c ∧ n.candidate = .ok d ∧ c.Resembles d := by
  intro m n
  rcases hscan.parse with ⟨address, hp, hp'⟩ | ⟨cause, hp, hp', hbssid⟩
  · by_cases hmatch : saved.logical = scan.logical
    · have hmatch' : saved'.logical = scan'.logical :=
        hsaved.logical.symm.trans (hmatch.trans hscan.logical)
      let slot : Slot := ⟨saved.logical, address, saved.id⟩
      refine .inr ⟨⟨slot, scan, seen, saved, i, score⟩, ⟨slot, scan', seen', saved', i, score⟩,
        ?_, ?_, rfl, rfl, rfl⟩
      · simp only [m, candidate, hp, if_pos hmatch, slot]
      · simp only [n, candidate, hp', if_pos hmatch', slot, hsaved.logical, hsaved.id]
    · refine .inl ⟨.networkMismatch saved.logical scan.logical, ?_, ?_⟩
      · simp only [m, candidate, hp, if_neg hmatch]
      · rw [hsaved.logical, hscan.logical] at hmatch ⊢
        simp only [n, candidate, hp', if_neg hmatch]
  · refine .inl ⟨.malformedBssid scan.bssid cause, ?_, ?_⟩
    · simp only [m, candidate, hp]
    · simp only [n, candidate, hp', hbssid]

/-- Nominations that resemble each other have the same fault, or candidates that do. -/
theorem Nomination.Resembles.candidate {m n : Nomination} (h : m.Resembles n) :
    (∃ f, m.candidate = .error f ∧ n.candidate = .error f) ∨
      ∃ c d, m.candidate = .ok c ∧ n.candidate = .ok d ∧ c.Resembles d := by
  obtain ⟨sighting, saved, i, score⟩ := m
  obtain ⟨sighting', saved', i', score'⟩ := n
  obtain ⟨hsighting, hsaved, rfl, rfl⟩ := h
  cases hsaved with
  | none => exact .inl ⟨.noSavedNetwork, rfl, rfl⟩
  | some hsaved =>
    cases hsighting with
    | none => exact .inl ⟨.noSighting, rfl, rfl⟩
    | @some sighting sighting' hsighting =>
      obtain ⟨result, seen⟩ := sighting
      obtain ⟨result', seen'⟩ := sighting'
      replace hsighting : Option.Rel ScanResult.Resembles result result' := hsighting
      cases hsighting with
      | none => exact .inl ⟨.noScanResult, rfl, rfl⟩
      | some hscan => exact candidate_of_resembles hsaved hscan seen seen' i score

/-- Another report of the access point at home: with colons, small letters and blanks in its
address, a second method of access beside the passphrase, and other readings. -/
def ScanResult.atHomeAgain : ScanResult :=
  { ssid := "home", bssid := " 00:11:22:33:44:ab ", capabilities := "[RSN-PSK+SAE-CCMP]"
    level := -85, frequency := 2412, heardAt := 7 }

/-- A nomination by that report, for the network marked as a suggestion. -/
def Nomination.atHomeAgain (nominator : UInt32) (score : Int32) : Nomination :=
  { sighting := some ⟨some .atHomeAgain, ⟨2000⟩⟩
    saved := some (SavedNetwork.psk ⟨1⟩ "home").markEphemeral, nominator, score }

theorem ScanResult.resembles_atHomeAgain : ScanResult.atHome.Resembles .atHomeAgain where
  ssid := rfl
  security := by decide
  bssid := .inr ⟨(Candidate.atHome 0 0).slot.bssid, by decide, by decide⟩

theorem Nomination.resembles_atHomeAgain (nominator : UInt32) (score : Int32) :
    (Nomination.atHome nominator score).Resembles (.atHomeAgain nominator score) where
  sighting := .some (.some ScanResult.resembles_atHomeAgain)
  saved := .some ⟨rfl, rfl, rfl⟩
  nominator := rfl
  score := rfl

/-! ## Outcomes that resemble each other -/

/-- Two outcomes are of the same kind, with candidates that resemble each other, or are the same
fault. -/
inductive Outcome.Resembles : Outcome → Outcome → Prop
  | addition {c d : Candidate} (h : c.Resembles d) : Resembles (.addition c) (.addition d)
  | replacement {c d o p : Candidate} (h : c.Resembles d) (ho : o.Resembles p) :
    Resembles (.replacement c o) (.replacement d p)
  | rejection {c d o p : Candidate} (h : c.Resembles d) (ho : o.Resembles p) :
    Resembles (.rejection c o) (.rejection d p)
  | fault (f : Fault) : Resembles (.fault f) (.fault f)

/-- Two registries have occupants that resemble each other in the same slots, and are alike in
their settings, their tallies and their faults. -/
structure Registry.Resembles (r s : Registry) : Prop where
  occupants : ∀ slot, Option.Rel Candidate.Resembles (r.get? slot) (s.get? slot)
  settings : r.settings = s.settings
  tally : r.tally = s.tally
  lastFault : r.lastFault = s.lastFault
  faultCount : r.faultCount = s.faultCount

theorem Outcome.Resembles.occupant {o p : Outcome} (h : o.Resembles p) {slot : Slot}
    {before before' : Option Candidate} (hb : Option.Rel Candidate.Resembles before before') :
    Option.Rel Candidate.Resembles (o.occupant slot before) (p.occupant slot before') := by
  cases h with
  | addition hc | replacement hc _ =>
    rw [Outcome.occupant, Outcome.occupant, hc.slot]
    split_ifs
    · exact .some hc
    · exact hb
  | rejection _ _ | fault _ => exact hb

namespace Registry.Resembles

variable {r s : Registry} {m n : Nomination}

/-- A slot is empty in both, or has occupants that resemble each other. -/
theorem get?_cases (h : r.Resembles s) (slot : Slot) :
    (r.get? slot = none ∧ s.get? slot = none) ∨
      ∃ c d, r.get? slot = some c ∧ s.get? slot = some d ∧ c.Resembles d := by
  have hslot := h.occupants slot
  generalize r.get? slot = a at hslot ⊢
  generalize s.get? slot = b at hslot ⊢
  cases hslot with
  | none => exact .inl ⟨rfl, rfl⟩
  | some hcd => exact .inr ⟨_, _, rfl, rfl, hcd⟩

/-- Nominations that resemble each other come to outcomes that do. -/
theorem outcome (h : r.Resembles s) (hmn : m.Resembles n) :
    ∃ o p, r.outcome (.nominate m) = some o ∧ s.outcome (.nominate n) = some p ∧
      o.Resembles p := by
  rcases hmn.candidate with ⟨f, hm, hn⟩ | ⟨c, d, hm, hn, hcd⟩
  · exact ⟨.fault f, .fault f, by simp only [Registry.outcome, hm],
      by simp only [Registry.outcome, hn], .fault f⟩
  · simp only [Registry.outcome, hm, hn, ← hcd.slot, ← hcd.nominator, ← hcd.score]
    rcases h.get?_cases c.slot with ⟨hr, hs⟩ | ⟨o, p, hr, hs, hop⟩
    · rw [hr, hs]
      exact ⟨_, _, rfl, rfl, .addition hcd⟩
    · rw [hr, hs]
      dsimp only
      rw [← hop.nominator, ← hop.score]
      split_ifs
      · exact ⟨_, _, rfl, rfl, .fault _⟩
      · exact ⟨_, _, rfl, rfl, .replacement hcd hop⟩
      · exact ⟨_, _, rfl, rfl, .rejection hcd hop⟩

/-- Outcomes that resemble each other have the same answer and the same entries in the journal,
and leave registries that resemble each other. -/
theorem settle (h : r.Resembles s) {o p : Outcome} (hop : o.Resembles p) :
    (r.settle o).registry.Resembles (s.settle p).registry ∧
      (r.settle o).answer = (s.settle p).answer ∧ (r.settle o).journal = (s.settle p).journal := by
  have hcount : o.count r.tally = p.count s.tally := by
    rw [h.tally]
    cases hop <;> rfl
  have hfault : o.fault? = p.fault? := by
    cases hop <;> rfl
  refine ⟨⟨fun slot => ?_, ?_, ?_, ?_, ?_⟩, ?_, ?_⟩
  · rw [get?_settle, get?_settle]
    exact hop.occupant (h.occupants slot)
  · rw [settings_settle, settings_settle, h.settings]
  · rw [tally_settle, tally_settle, hcount]
  · rw [lastFault_settle, lastFault_settle, hfault, h.lastFault]
  · rw [faultCount_settle, faultCount_settle, hfault, h.faultCount]
  · rw [answer_settle, answer_settle, h.settings]
    cases hop <;> rfl
  · cases hop with
    | addition hc => simp only [Registry.settle, hc.slot, hc.nominator, hc.score]
    | replacement hc ho | rejection hc ho =>
      simp only [Registry.settle, hc.slot, hc.nominator, hc.score, ho.score]
    | fault f => simp only [Registry.settle, fail, h.settings, h.faultCount]

/-- Runs of nominations that resemble each other have the same answers and the same journal, and
leave registries that resemble each other. -/
theorem run {ms ns : List Nomination} (h : r.Resembles s)
    (hmn : List.Forall₂ Nomination.Resembles ms ns) :
    (r.run (ms.map .nominate)).registry.Resembles (s.run (ns.map .nominate)).registry ∧
      (r.run (ms.map .nominate)).answer = (s.run (ns.map .nominate)).answer ∧
      (r.run (ms.map .nominate)).journal = (s.run (ns.map .nominate)).journal := by
  induction hmn generalizing r s with
  | nil => exact ⟨h, rfl, rfl⟩
  | @cons m n ms ns hm _ ih =>
    obtain ⟨o, p, ho, hp, hop⟩ := h.outcome hm
    obtain ⟨hregistry, hanswer, hjournal⟩ := h.settle hop
    obtain ⟨hregistry', hanswer', hjournal'⟩ := ih hregistry
    simp only [List.map_cons, Registry.run, perform_eq_settle ho, perform_eq_settle hp, Effect.map]
    exact ⟨hregistry', by rw [hanswer, hanswer'], by rw [hjournal, hjournal']⟩

end Registry.Resembles

namespace Registry

/-- Registries that agree, with the same settings, resemble each other. -/
theorem Agrees.resembles {r s : Registry} (h : r.Agrees s) (hsettings : r.settings = s.settings) :
    r.Resembles s where
  occupants slot := by
    rw [h.get?]
    cases s.get? slot with
    | none => exact .none
    | some c => exact .some ⟨rfl, rfl, rfl⟩
  settings := hsettings
  tally := h.tally
  lastFault := h.lastFault
  faultCount := h.faultCount

/-! ## What can be seen -/

/-- Two registries show the same: the slots that are taken, by whose candidates and with which
scores, how many there are, the tally, and the faults. -/
structure LooksLike (r s : Registry) : Prop where
  get?_eq_none_iff : ∀ slot, r.get? slot = none ↔ s.get? slot = none
  get?_map : ∀ slot, (r.get? slot).map (fun c => (c.nominator, c.score)) =
    (s.get? slot).map fun c => (c.nominator, c.score)
  size : r.size = s.size
  tally : r.tally = s.tally
  lastFault : r.lastFault = s.lastFault
  faultCount : r.faultCount = s.faultCount

theorem Resembles.looksLike {r s : Registry} (h : r.Resembles s) : r.LooksLike s := by
  have hmap (slot : Slot) : (r.get? slot).map (fun c => (c.nominator, c.score)) =
      (s.get? slot).map fun c => (c.nominator, c.score) := by
    rcases h.get?_cases slot with ⟨hr, hs⟩ | ⟨c, d, hr, hs, hcd⟩
    · rw [hr, hs]
    · rw [hr, hs, Option.map_some, Option.map_some, hcd.nominator, hcd.score]
  have hnone (slot : Slot) : r.get? slot = none ↔ s.get? slot = none := by
    rw [← Option.map_eq_none_iff, hmap, Option.map_eq_none_iff]
  exact ⟨hnone, hmap, size_congr hnone, h.tally, h.lastFault, h.faultCount⟩

/-- Registries that agree, on which nominations are made that resemble each other one by one, give
the same answers and the same journal, and show the same after each of them. -/
theorem noninterference_run {r s : Registry} (h : r.Agrees s) (hsettings : r.settings = s.settings)
    {ms ns : List Nomination} (hmn : List.Forall₂ Nomination.Resembles ms ns) :
    (r.run (ms.map .nominate)).answer = (s.run (ns.map .nominate)).answer ∧
      (r.run (ms.map .nominate)).journal = (s.run (ns.map .nominate)).journal ∧
      ∀ k, (r.run ((ms.take k).map .nominate)).registry.LooksLike
        (s.run ((ns.take k).map .nominate)).registry := by
  have hrs := h.resembles hsettings
  obtain ⟨-, hanswer, hjournal⟩ := hrs.run hmn
  refine ⟨hanswer, hjournal, fun k => ?_⟩
  exact (hrs.run (List.forall₂_take k hmn)).1.looksLike

/-- A replacement and a fault, with the same access point reported in two ways. -/
theorem noninterference_run_atHome :
    let r := fresh {} none
    let ms : List Nomination := [.atHome 0 10, .atHome 0 20, .atHome 1 30]
    let ns : List Nomination := [.atHomeAgain 0 10, .atHomeAgain 0 20, .atHomeAgain 1 30]
    r.Agrees r ∧ List.Forall₂ Nomination.Resembles ms ns ∧
    (r.run (ms.map .nominate)).registry.candidates ≠
      (r.run (ns.map .nominate)).registry.candidates ∧
    (r.run (ms.map .nominate)).answer = (r.run (ns.map .nominate)).answer ∧
    (r.run ((ms.take 2).map .nominate)).registry.LooksLike
      (r.run ((ns.take 2).map .nominate)).registry := by
  intro r ms ns
  have h : r.Agrees r := ⟨fun _ => rfl, rfl, rfl, rfl⟩
  have hmn : List.Forall₂ Nomination.Resembles ms ns :=
    .cons (Nomination.resembles_atHomeAgain 0 10) (.cons (Nomination.resembles_atHomeAgain 0 20)
      (.cons (Nomination.resembles_atHomeAgain 1 30) .nil))
  have hne : (r.run (ms.map .nominate)).registry.candidates ≠
      (r.run (ns.map .nominate)).registry.candidates := by decide
  obtain ⟨hanswer, -, hlooks⟩ := noninterference_run h rfl hmn
  exact ⟨h, hmn, hne, hanswer, hlooks 2⟩

end Registry

end WifiArbiter
