import Mathlib.Data.List.TakeWhile
import Mathlib.Order.Bounds.Basic
import Mathlib.Tactic.SplitIfs
import WifiArbiter.Security.Class
import WifiArbiter.Text.Ascii

/-!
# Advertisement

The security class of a text of capabilities is the strongest that it advertises, with two
exceptions for access points that serve older stations too. What a text advertises is said here of
the parts of the text, without reference to how it is read: the elements between brackets, which
need not match, the tokens between hyphens and plus signs, and in each token a name that may
follow `FT/` and precede a slash and anything.

Results:
* `Capability.keyManagementName_eq_iff`: the name in a token.
* `Capability.mem_ofElement_iff`, `mem_ofText_iff`: which capabilities are read from an element,
  and from a text.
* `SecurityClass.isGreatest_strongest`: the strongest class of some capabilities.
* `SecurityClass.ofCapabilities_eq`: how the class of an access point departs from it.
* `SecurityClass.ofText_strongest`: the class of every text.
-/

namespace WifiArbiter

namespace Capability

/-! ## What a text says -/

/-- A text is the word but for the case of ASCII letters. -/
def Spells (cs : List Char) (word : String) : Prop :=
  cs.map Char.toLower = word.toList.map Char.toLower

/-- The word is an element of the text. -/
def HasWord (s word : String) : Prop :=
  ∃ element, Text.IsPiece isBracket s.toList element ∧ Spells element word

/-- In upper case, and without one `FT/` if it starts with that, the token is the name, or the
name and then a slash and anything. -/
def Names (token name : List Char) : Prop :=
  '/' ∉ name ∧ ∃ body,
    (upper token = "FT/".toList ++ body ∨ upper token = body ∧ ¬ "FT/".toList <+: body) ∧
    (body = name ∨ ∃ rest, body = name ++ '/' :: rest)

/-- The name is in a token of an element of the text, other than the two words that are elements
as a whole. -/
def HasName (s name : String) : Prop :=
  ∃ element, Text.IsPiece isBracket s.toList element ∧
    ¬ Spells element "WEP" ∧ ¬ Spells element "OWE_TRANSITION" ∧
    ∃ token, Text.IsPiece isJoint element token ∧ Names token name.toList

/-! ## What is read -/

theorem upper_map_toLower (cs : List Char) : upper (cs.map Char.toLower) = upper cs := by
  rw [upper, upper, List.map_map]
  exact List.map_congr_left fun c _ => Text.apply_toLower (f := Char.toUpper) (by decide) c

theorem map_toLower_upper (cs : List Char) : (upper cs).map Char.toLower = cs.map Char.toLower := by
  rw [upper, List.map_map]
  exact List.map_congr_left fun c _ => Text.apply_toUpper (f := Char.toLower) (by decide) c

/-- A text in upper case is a word in upper case just when it spells the word. -/
theorem upper_eq_iff {word : String} (hword : upper word.toList = word.toList) {cs : List Char} :
    upper cs = word.toList ↔ Spells cs word := by
  constructor
  · intro h
    rw [Spells, ← map_toLower_upper, h]
  · intro h
    rw [← upper_map_toLower, h, upper_map_toLower, hword]

theorem withoutFastTransition_eq_iff {cs body : List Char} :
    withoutFastTransition cs = body ↔
      cs = "FT/".toList ++ body ∨ cs = body ∧ ¬ "FT/".toList <+: body := by
  unfold withoutFastTransition
  split
  · rename_i rest
    constructor
    · rintro rfl
      exact .inl rfl
    · rintro (h | ⟨rfl, hnot⟩)
      · have hbody : "FT/".toList ++ rest = "FT/".toList ++ body := h
        exact List.append_cancel_left hbody
      · exact absurd ⟨rest, rfl⟩ hnot
  · rename_i hnot
    constructor
    · rintro rfl
      exact .inr ⟨rfl, fun ⟨rest, h⟩ => hnot rest h.symm⟩
    · rintro (h | ⟨h, -⟩)
      · exact (hnot body h).elim
      · exact h

theorem takeWhile_ne_of_not_mem {c : Char} {name : List Char} (h : c ∉ name) :
    name.takeWhile (· ≠ c) = name :=
  List.takeWhile_eq_self_iff.mpr fun _ hd => decide_eq_true (ne_of_mem_of_not_mem hd h)

theorem takeWhile_ne_append_cons {c : Char} {name : List Char} (h : c ∉ name) (rest : List Char) :
    (name ++ c :: rest).takeWhile (· ≠ c) = name := by
  rw [List.takeWhile_append_of_pos fun _ hd => decide_eq_true (ne_of_mem_of_not_mem hd h),
    List.takeWhile_cons_of_neg (by simp), List.append_nil]

/-- What comes before the first occurrence of a character. -/
theorem takeWhile_ne_eq_iff {c : Char} {cs name : List Char} :
    cs.takeWhile (· ≠ c) = name ↔ c ∉ name ∧ (cs = name ∨ ∃ rest, cs = name ++ c :: rest) := by
  constructor
  · rintro rfl
    by_cases hc : c ∈ cs
    · obtain ⟨before, after, rfl, hbefore⟩ := List.eq_append_cons_of_mem hc
      rw [takeWhile_ne_append_cons hbefore]
      exact ⟨hbefore, .inr ⟨after, rfl⟩⟩
    · rw [takeWhile_ne_of_not_mem hc]
      exact ⟨hc, .inl rfl⟩
  · rintro ⟨hname, rfl | ⟨rest, rfl⟩⟩
    · exact takeWhile_ne_of_not_mem hname
    · exact takeWhile_ne_append_cons hname rest

/-- The name in a token is what the token names. -/
theorem keyManagementName_eq_iff {token name : List Char} :
    keyManagementName token = name ↔ Names token name := by
  rw [keyManagementName, takeWhile_ne_eq_iff, Names]
  refine and_congr_right fun _ => ?_
  constructor
  · intro h
    exact ⟨_, withoutFastTransition_eq_iff.mp rfl, h⟩
  · rintro ⟨body, hbody, h⟩
    rwa [withoutFastTransition_eq_iff.mpr hbody]

/-! ## Capabilities -/

/-- The name that a key management has in a token. -/
def name? : Capability → Option String
  | psk => some "PSK"
  | sae => some "SAE"
  | eap => some "EAP"
  | suiteB => some "EAP_SUITE_B_192"
  | owe => some "OWE"
  | wep | oweTransition => none

theorem ofName?_eq_some_iff {cs : List Char} {c : Capability} :
    ofName? cs = some c ↔ ∃ name, c.name? = some name ∧ cs = name.toList := by
  constructor
  · intro h
    unfold ofName? at h
    split_ifs at h with hcs hcs hcs hcs hcs
    all_goals
      obtain rfl := Option.some.inj h
      exact ⟨_, rfl, hcs⟩
  · rintro ⟨name, hname, rfl⟩
    cases c with
    | psk | sae | eap | suiteB | owe =>
      obtain rfl := Option.some.inj hname
      decide
    | wep | oweTransition => cases hname

/-- A token has the capability that it names. -/
theorem ofToken?_eq_some_iff {token : List Char} {c : Capability} :
    ofToken? token = some c ↔ ∃ name, c.name? = some name ∧ Names token name.toList := by
  simp only [ofToken?, ofName?_eq_some_iff, keyManagementName_eq_iff]

/-! ### Of an element -/

section Element

variable {element : List Char} {c : Capability}

theorem ofElement_of_wep (h : Spells element "WEP") : ofElement element = [wep] :=
  if_pos ((upper_eq_iff (by decide)).mpr h)

theorem ofElement_of_oweTransition (h : Spells element "OWE_TRANSITION") :
    ofElement element = [oweTransition] := by
  have hupper : upper element = "OWE_TRANSITION".toList := (upper_eq_iff (by decide)).mpr h
  rw [ofElement, hupper, if_neg (by decide), if_pos rfl]

theorem ofElement_of_not_spells (hw : ¬ Spells element "WEP")
    (ht : ¬ Spells element "OWE_TRANSITION") :
    ofElement element = (Text.pieces isJoint element).filterMap ofToken? := by
  rw [ofElement, if_neg (mt (upper_eq_iff (by decide)).mp hw),
    if_neg (mt (upper_eq_iff (by decide)).mp ht)]

/-- No element is both words. -/
theorem not_spells_of_spells (h : Spells element "WEP") : ¬ Spells element "OWE_TRANSITION" := by
  intro ht
  rw [Spells, h] at ht
  exact absurd ht (by decide)

/-- An element has the capability of the word that it is, or those that its tokens name. -/
theorem mem_ofElement_iff :
    c ∈ ofElement element ↔
      c = wep ∧ Spells element "WEP" ∨ c = oweTransition ∧ Spells element "OWE_TRANSITION" ∨
      ∃ name, c.name? = some name ∧ ¬ Spells element "WEP" ∧ ¬ Spells element "OWE_TRANSITION" ∧
        ∃ token, Text.IsPiece isJoint element token ∧ Names token name.toList := by
  by_cases hw : Spells element "WEP"
  · simp [ofElement_of_wep hw, hw, not_spells_of_spells hw]
  · by_cases ht : Spells element "OWE_TRANSITION"
    · simp [ofElement_of_oweTransition ht, hw, ht]
    · rw [ofElement_of_not_spells hw ht, List.mem_filterMap]
      simp only [Text.mem_pieces_iff, ofToken?_eq_some_iff, hw, ht, and_false, false_or,
        not_false_eq_true, true_and]
      constructor
      · rintro ⟨token, htoken, name, hname, hnames⟩
        exact ⟨name, hname, token, htoken, hnames⟩
      · rintro ⟨name, hname, token, htoken, hnames⟩
        exact ⟨token, htoken, name, hname, hnames⟩

end Element

/-- A text has the capabilities of the words and the names in it. -/
theorem mem_ofText_iff {c : Capability} {s : String} :
    c ∈ ofText s ↔
      c = wep ∧ HasWord s "WEP" ∨ c = oweTransition ∧ HasWord s "OWE_TRANSITION" ∨
      ∃ name, c.name? = some name ∧ HasName s name := by
  rw [ofText, ofChars, List.mem_flatMap]
  simp only [elements, Text.mem_pieces_iff, mem_ofElement_iff]
  constructor
  · rintro ⟨element, hpiece, ⟨hc, hw⟩ | ⟨hc, ht⟩ | ⟨name, hname, hnames⟩⟩
    · exact .inl ⟨hc, element, hpiece, hw⟩
    · exact .inr (.inl ⟨hc, element, hpiece, ht⟩)
    · exact .inr (.inr ⟨name, hname, element, hpiece, hnames⟩)
  · rintro (⟨hc, element, hpiece, hw⟩ | ⟨hc, element, hpiece, ht⟩ |
      ⟨name, hname, element, hpiece, hnames⟩)
    · exact ⟨element, hpiece, .inl ⟨hc, hw⟩⟩
    · exact ⟨element, hpiece, .inr (.inl ⟨hc, ht⟩)⟩
    · exact ⟨element, hpiece, .inr (.inr ⟨name, hname, hnames⟩)⟩

end Capability

/-! ## Classes -/

namespace SecurityClass

open Capability

/-- The text advertises the class: by the name of a key management or, for the retired class, by a
word of its own. Nothing advertises that there is no protection. -/
def IsAdvertised (s : String) : SecurityClass → Prop
  | unsecured => False
  | owe => HasName s "OWE"
  | wep => HasWord s "WEP"
  | psk => HasName s "PSK"
  | sae => HasName s "SAE"
  | eap => HasName s "EAP"
  | eapSuiteB => HasName s "EAP_SUITE_B_192"

/-- The capability that stands for a class. -/
def capability? : SecurityClass → Option Capability
  | unsecured => none
  | owe => some .owe
  | wep => some .wep
  | psk => some .psk
  | sae => some .sae
  | eap => some .eap
  | eapSuiteB => some .suiteB

theorem isAdvertised_iff {s : String} {k : SecurityClass} :
    IsAdvertised s k ↔ ∃ c, k.capability? = some c ∧ c ∈ Capability.ofText s := by
  cases k <;> simp [IsAdvertised, capability?, mem_ofText_iff, name?]

/-- The strongest class that some capabilities stand for. -/
def strongest (cs : List Capability) : SecurityClass :=
  if .suiteB ∈ cs then eapSuiteB
  else if .eap ∈ cs then eap
  else if .sae ∈ cs then sae
  else if .psk ∈ cs then psk
  else if .wep ∈ cs then wep
  else if .owe ∈ cs then owe
  else unsecured

theorem le_strongest {cs : List Capability} {k : SecurityClass} {c : Capability}
    (hc : k.capability? = some c) (h : c ∈ cs) : k ≤ strongest cs := by
  unfold strongest
  cases k with
  | unsecured => cases hc
  | owe | wep | psk | sae | eap | eapSuiteB =>
    cases hc
    split_ifs <;> decide

theorem isGreatest_strongest (cs : List Capability) :
    IsGreatest (insert unsecured {k | ∃ c, k.capability? = some c ∧ c ∈ cs}) (strongest cs) := by
  constructor
  · unfold strongest
    split_ifs <;> simp_all [capability?]
  · rintro k (rfl | ⟨c, hc, h⟩)
    · exact Nat.zero_le _
    · exact le_strongest hc h

/-- The class is the strongest but for the two exceptions. -/
theorem ofCapabilities_eq (cs : List Capability) :
    ofCapabilities cs =
      if strongest cs = sae ∧ .psk ∈ cs then psk
      else if strongest cs = owe ∧ .oweTransition ∈ cs then unsecured
      else strongest cs := by
  unfold ofCapabilities strongest
  split_ifs <;> simp_all

theorem isGreatest_iff_eq {ks : Set SecurityClass} {k : SecurityClass} (h : IsGreatest ks k)
    {j : SecurityClass} : IsGreatest ks j ↔ j = k := by
  constructor
  · intro hj
    exact strength_injective (Nat.le_antisymm (h.2 hj.1) (hj.2 h.1))
  · rintro rfl
    exact h

/-- Every text has one strongest class among those that it advertises, with that of no protection
for want of others, and is of this class but for two exceptions: it is of the class of shared
passphrases if the strongest is that of the newer proof of a passphrase and both are advertised,
and of the class without protection if the strongest is that of opportunistic encryption and the
text has the word for its transition mode. -/
theorem ofText_strongest (s : String) :
    ∃ k, (∀ j, IsGreatest (insert unsecured {k | IsAdvertised s k}) j ↔ j = k) ∧
      (k = sae → HasName s "PSK" → ofText s = psk) ∧
      (k = owe → HasWord s "OWE_TRANSITION" → ofText s = unsecured) ∧
      (¬ (k = sae ∧ HasName s "PSK") → ¬ (k = owe ∧ HasWord s "OWE_TRANSITION") →
        ofText s = k) := by
  have hclasses : {k | IsAdvertised s k} =
      {k | ∃ c, k.capability? = some c ∧ c ∈ Capability.ofText s} :=
    Set.ext fun _ => isAdvertised_iff
  have hpsk : HasName s "PSK" ↔ .psk ∈ Capability.ofText s := by simp [mem_ofText_iff, name?]
  have htransition : HasWord s "OWE_TRANSITION" ↔ .oweTransition ∈ Capability.ofText s := by
    simp [mem_ofText_iff, name?]
  have heq := ofCapabilities_eq (Capability.ofText s)
  rw [hclasses, hpsk, htransition]
  refine ⟨strongest (Capability.ofText s), fun j => isGreatest_iff_eq (isGreatest_strongest _),
    fun hk h => ?_, fun hk h => ?_, fun hsae howe => ?_⟩
  · exact heq.trans (if_pos ⟨hk, h⟩)
  · rw [if_neg (by simp [hk]), if_pos ⟨hk, h⟩] at heq
    exact heq
  · rw [if_neg hsae, if_neg howe] at heq
    exact heq

/-- Brackets need not match, and only one mark of fast transition is taken from a token. -/
example : ofText "]RSN-FT/FT/PSK-ccmp[[weP]" = wep := by decide

end SecurityClass

end WifiArbiter
