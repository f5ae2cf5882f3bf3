import WifiArbiter.Proofs.Elements

/-!
# Downgrades

One more element in a text of capabilities does not put the access point into a weaker class, with
two exceptions, and these are the modes in which it serves older stations too. Where it had only
the newer proof of a passphrase, the element brings the passphrase itself; where it had only
opportunistic encryption, the element is the word for the open network beside it.

Results:
* `SecurityClass.strongest_mono`, `ofCapabilities_le_strongest`: the strongest class only rises, and
  is never exceeded.
* `SecurityClass.not_le_iff_of_subset`: where more capabilities put into a weaker class.
* `SecurityClass.ofText_downgrade`: where one more element does.
-/

namespace WifiArbiter

namespace SecurityClass

open Capability

/-! ## More capabilities -/

section Capabilities

variable {cs ds : List Capability}

/-- More capabilities do not make the strongest class weaker. -/
theorem strongest_mono (h : cs ⊆ ds) : strongest cs ≤ strongest ds := by
  rcases (isGreatest_strongest cs).1 with hnone | ⟨c, hc, hmem⟩
  · rw [hnone]
    exact Nat.zero_le _
  · exact le_strongest hc (h hmem)

/-- Both exceptions put into a weaker class than the strongest. -/
theorem ofCapabilities_le_strongest (cs : List Capability) : ofCapabilities cs ≤ strongest cs := by
  rw [ofCapabilities_eq]
  split_ifs with hsae howe
  · rw [hsae.1]
    decide
  · rw [howe.1]
    decide
  · exact Nat.le_refl _

theorem eq_of_le_of_strength {k j : SecurityClass} (hle : k ≤ j) (hlt : j.strength ≤ k.strength) :
    k = j :=
  strength_injective (Nat.le_antisymm hle hlt)

/-- More capabilities put into a weaker class only from the newer proof of a passphrase to that of
shared passphrases, and from opportunistic encryption to no protection. -/
theorem not_le_iff_of_subset (h : cs ⊆ ds) :
    ¬ ofCapabilities cs ≤ ofCapabilities ds ↔
      ofCapabilities cs = sae ∧ ofCapabilities ds = psk ∨
      ofCapabilities cs = owe ∧ ofCapabilities ds = unsecured := by
  constructor
  · intro hnot
    have hle : ofCapabilities cs ≤ strongest ds :=
      Nat.le_trans (ofCapabilities_le_strongest cs) (strongest_mono h)
    -- so the class of the more capabilities is one of the exceptions, just below the strongest
    rw [ofCapabilities_eq ds] at hnot ⊢
    split_ifs at hnot ⊢ with hsae howe
    · rw [hsae.1] at hle
      exact .inl ⟨eq_of_le_of_strength hle (Nat.lt_of_not_le hnot), rfl⟩
    · rw [howe.1] at hle
      exact .inr ⟨eq_of_le_of_strength hle (Nat.lt_of_not_le hnot), rfl⟩
    · exact absurd hle hnot
  · rintro (⟨hcs, hds⟩ | ⟨hcs, hds⟩)
    · rw [hcs, hds]
      decide
    · rw [hcs, hds]
      decide

theorem psk_not_mem_of_eq_sae (h : ofCapabilities cs = sae) : .psk ∉ cs := by
  intro hmem
  unfold ofCapabilities at h
  split_ifs at h

theorem psk_mem_of_eq_psk (h : ofCapabilities cs = psk) : .psk ∈ cs := by
  unfold ofCapabilities at h
  split_ifs at h with _ _ hmem
  exact hmem

theorem of_eq_owe (h : ofCapabilities cs = owe) : .owe ∈ cs ∧ .oweTransition ∉ cs := by
  unfold ofCapabilities at h
  split_ifs at h with _ _ _ _ _ howe
  exact howe

theorem oweTransition_mem_of_eq_unsecured (h : ofCapabilities cs = unsecured) (howe : .owe ∈ cs) :
    .oweTransition ∈ cs := by
  unfold ofCapabilities at h
  split_ifs at h with _ _ _ _ _ hnot
  by_contra hmem
  exact hnot ⟨howe, hmem⟩

end Capabilities

/-! ## One more element -/

theorem psk_mem_ofText_iff {s : String} : .psk ∈ Capability.ofText s ↔ HasName s "PSK" := by
  simp [mem_ofText_iff, name?]

theorem oweTransition_mem_ofText_iff {s : String} :
    .oweTransition ∈ Capability.ofText s ↔ HasWord s "OWE_TRANSITION" := by
  simp [mem_ofText_iff, name?]

/-- Whatever the text and the element that is put in brackets behind it, the class is then no
weaker than before, unless it is that of shared passphrases and was that of the newer proof of a
passphrase, or is that of no protection and was that of opportunistic encryption. In the first case
the name of shared passphrases is in the element and not in the text, and in the second the word
for the transition mode is. -/
theorem ofText_downgrade (s element : String) :
    (¬ ofText s ≤ ofText (s ++ "[" ++ element ++ "]") ↔
      ofText s = sae ∧ ofText (s ++ "[" ++ element ++ "]") = psk ∨
      ofText s = owe ∧ ofText (s ++ "[" ++ element ++ "]") = unsecured) ∧
    (ofText s = sae → ofText (s ++ "[" ++ element ++ "]") = psk →
      ¬ HasName s "PSK" ∧ HasName element "PSK") ∧
    (ofText s = owe → ofText (s ++ "[" ++ element ++ "]") = unsecured →
      ¬ HasWord s "OWE_TRANSITION" ∧ HasWord element "OWE_TRANSITION") := by
  have hafter : ofText (s ++ "[" ++ element ++ "]") =
      ofCapabilities (Capability.ofText s ++ Capability.ofText element) :=
    congrArg ofCapabilities (ofText_concat_bracketed s element)
  simp only [← psk_mem_ofText_iff, ← oweTransition_mem_ofText_iff]
  rw [hafter]
  refine ⟨not_le_iff_of_subset (List.subset_append_left _ _), fun hbefore h => ?_,
    fun hbefore h => ?_⟩
  · have hnot := psk_not_mem_of_eq_sae hbefore
    exact ⟨hnot, (List.mem_append.mp (psk_mem_of_eq_psk h)).resolve_left hnot⟩
  · obtain ⟨howe, hnot⟩ := of_eq_owe hbefore
    have hmem := oweTransition_mem_of_eq_unsecured h (List.mem_append_left _ howe)
    exact ⟨hnot, (List.mem_append.mp hmem).resolve_left hnot⟩

/-- An access point in each of the two transition modes. -/
theorem ofText_downgrade_transition :
    ofText "[RSN-SAE-CCMP]" = sae ∧ ofText ("[RSN-SAE-CCMP]" ++ "[" ++ "WPA2-PSK" ++ "]") = psk ∧
    ¬ ofText "[RSN-SAE-CCMP]" ≤ ofText ("[RSN-SAE-CCMP]" ++ "[" ++ "WPA2-PSK" ++ "]") ∧
    HasName "WPA2-PSK" "PSK" ∧
    ofText "[RSN-OWE]" = owe ∧ ofText ("[RSN-OWE]" ++ "[" ++ "owe_transition" ++ "]") = unsecured ∧
    HasWord "owe_transition" "OWE_TRANSITION" := by
  have hsae : ofText "[RSN-SAE-CCMP]" = sae := by decide
  have hpsk : ofText ("[RSN-SAE-CCMP]" ++ "[" ++ "WPA2-PSK" ++ "]") = psk := by decide
  have howe : ofText "[RSN-OWE]" = owe := by decide
  have hnone : ofText ("[RSN-OWE]" ++ "[" ++ "owe_transition" ++ "]") = unsecured := by decide
  obtain ⟨hiff, hname, -⟩ := ofText_downgrade "[RSN-SAE-CCMP]" "WPA2-PSK"
  obtain ⟨-, -, hword⟩ := ofText_downgrade "[RSN-OWE]" "owe_transition"
  exact ⟨hsae, hpsk, hiff.mpr (.inl ⟨hsae, hpsk⟩), (hname hsae hpsk).2, howe, hnone,
    (hword howe hnone).2⟩

end SecurityClass

end WifiArbiter
