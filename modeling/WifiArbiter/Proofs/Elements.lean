import Mathlib.Data.List.Basic
import WifiArbiter.Proofs.Advertisement

/-!
# Elements

What a text advertises is what its elements say, each for itself. A bracket cuts a text into two,
and the whole has the capabilities of both parts. So the class of an access point depends on which
elements there are, and on nothing else about the text: their order, how often each occurs,
elements that say nothing, brackets without anything between them and the case of letters make no
difference.

Results:
* `Capability.ofText_append_of_isBoundary`: the capabilities of a text in two parts.
* `Capability.ofText_bracketed`: the capabilities of elements in brackets.
* `Capability.ofElement_upper`: an element says the same in upper case.
* `Capability.IsWithin.subset`: a text with the elements of another has its capabilities.
* `SecurityClass.ofText_elementwise`: what does not change the class of a text.
-/

namespace WifiArbiter

namespace Capability

/-- A part of the text that stands between brackets, or between a bracket and an end of the text. -/
def HasElement (s : String) (element : List Char) : Prop :=
  Text.IsPiece isBracket s.toList element

/-- The element is one of the two words, or has a token that names a key management. -/
def IsRecognised (element : List Char) : Prop :=
  Spells element "WEP" ∨ Spells element "OWE_TRANSITION" ∨
    ∃ (c : Capability) (name : String), c.name? = some name ∧
      ∃ token, Text.IsPiece isJoint element token ∧ Names token name.toList

/-- All recognised elements of the first text are in the second, but for the case of letters. -/
def IsWithin (s t : String) : Prop :=
  ∀ element, HasElement s element → IsRecognised element →
    ∃ element', HasElement t element' ∧ element.map Char.toLower = element'.map Char.toLower

/-- No element reaches from the end of the first text into the second. -/
def IsBoundary (s t : String) : Prop :=
  (∀ c ∈ s.toList.getLast?, isBracket c = true) ∨ ∀ c ∈ t.toList.head?, isBracket c = true

/-- Elements one after the other, each in brackets of its own. -/
def bracketed : List String → String
  | [] => ""
  | element :: elements => "[" ++ element ++ "]" ++ bracketed elements

/-! ## Texts in parts -/

theorem ofChars_append {as bs : List Char}
    (h : (∀ c ∈ as.getLast?, isBracket c = true) ∨ ∀ c ∈ bs.head?, isBracket c = true) :
    ofChars (as ++ bs) = ofChars as ++ ofChars bs := by
  have hnil : ofChars [] = [] := rfl
  rcases h with hlast | hhead
  · rcases List.eq_nil_or_concat as with rfl | ⟨as, c, rfl⟩
    · rw [hnil, List.nil_append, List.nil_append]
    · have hc : isBracket c = true := hlast c (by simp)
      rw [List.concat_eq_append, List.append_assoc, List.singleton_append,
        ofChars_append_cons hc, ofChars_append_cons hc, hnil, List.append_nil]
  · cases bs with
    | nil => rw [hnil, List.append_nil, List.append_nil]
    | cons c bs =>
      have hc : isBracket c = true := hhead c rfl
      have hcons : ofChars (c :: bs) = ofChars bs := ofChars_append_cons hc [] bs
      rw [ofChars_append_cons hc, hcons]

/-- A text in two parts has the capabilities of the first and then those of the second, if no
element reaches from one into the other. -/
theorem ofText_append_of_isBoundary {s t : String} (h : IsBoundary s t) :
    ofText (s ++ t) = ofText s ++ ofText t := by
  rw [ofText, String.toList_append]
  exact ofChars_append h

/-- A bracket cuts a text into two, each with capabilities of its own. -/
theorem ofText_append_bracket {bracket : String} (hb : bracket ∈ ["[", "]"]) (s t : String) :
    ofText (s ++ bracket ++ t) = ofText s ++ ofText t := by
  obtain ⟨c, hc, hbracket⟩ : ∃ c, isBracket c = true ∧ bracket.toList = [c] := by
    rcases List.mem_pair.mp hb with rfl | rfl
    · exact ⟨'[', rfl, rfl⟩
    · exact ⟨']', rfl, rfl⟩
  rw [ofText, String.toList_append, String.toList_append, hbracket, List.append_assoc]
  exact ofChars_append_cons hc s.toList t.toList

/-- A text in brackets between two others. -/
theorem ofText_append_bracketed (s element t : String) :
    ofText (s ++ "[" ++ element ++ "]" ++ t) = ofText s ++ ofText element ++ ofText t := by
  rw [ofText_append_bracket (by simp), ofText_append_bracket (by simp)]

/-- A text in brackets behind another. -/
theorem ofText_concat_bracketed (s element : String) :
    ofText (s ++ "[" ++ element ++ "]") = ofText s ++ ofText element := by
  have happend := ofText_append_bracketed s element ""
  rwa [String.append_empty, show ofText "" = [] from rfl, List.append_nil] at happend

/-- Elements in brackets have the capabilities of each. -/
theorem ofText_bracketed (elements : List String) :
    ofText (bracketed elements) = elements.flatMap ofText := by
  induction elements with
  | nil => rfl
  | cons element elements ih =>
    have hcons := ofText_append_bracketed "" element (bracketed elements)
    rw [String.empty_append] at hcons
    rw [bracketed, hcons, ih]
    rfl

/-! ## Elements -/

theorem mem_ofText_iff_exists {c : Capability} {s : String} :
    c ∈ ofText s ↔ ∃ element, HasElement s element ∧ c ∈ ofElement element := by
  rw [ofText, ofChars, List.mem_flatMap]
  exact exists_congr fun _ => and_congr_left' Text.mem_pieces_iff

/-- The recognised elements are those that have a capability. -/
theorem isRecognised_iff {element : List Char} : IsRecognised element ↔ ofElement element ≠ [] := by
  by_cases hw : Spells element "WEP"
  · simp [IsRecognised, hw, ofElement_of_wep]
  by_cases ht : Spells element "OWE_TRANSITION"
  · simp [IsRecognised, ht, ofElement_of_oweTransition]
  · have hexists : IsRecognised element ↔ ∃ c, c ∈ ofElement element := by
      simp only [IsRecognised, mem_ofElement_iff, hw, ht, and_false, false_or, not_false_eq_true,
        true_and]
    rw [hexists]
    exact ⟨fun ⟨_, hc⟩ => List.ne_nil_of_mem hc, List.exists_mem_of_ne_nil _⟩

/-- Where no element is recognised, nothing is advertised. -/
theorem ofText_eq_nil {s : String} (h : ∀ element, HasElement s element → ¬ IsRecognised element) :
    ofText s = [] := by
  refine List.eq_nil_iff_forall_not_mem.mpr fun c hc => ?_
  obtain ⟨element, helement, hmem⟩ := mem_ofText_iff_exists.mp hc
  exact h element helement (isRecognised_iff.mpr (List.ne_nil_of_mem hmem))

/-! ## Letter case -/

theorem isBracket_toUpper (c : Char) : isBracket c.toUpper = isBracket c :=
  Text.apply_toUpper (by decide) c

theorem isJoint_toUpper (c : Char) : isJoint c.toUpper = isJoint c :=
  Text.apply_toUpper (by decide) c

theorem upper_upper (cs : List Char) : upper (upper cs) = upper cs := by
  rw [upper, upper, List.map_map]
  exact List.map_congr_left fun c _ => Text.apply_toUpper (f := Char.toUpper) (by decide) c

theorem ofToken?_upper (token : List Char) : ofToken? (upper token) = ofToken? token := by
  rw [ofToken?, keyManagementName, upper_upper]
  rfl

/-- An element says the same in upper case. -/
theorem ofElement_upper (element : List Char) : ofElement (upper element) = ofElement element := by
  have hpieces : Text.pieces isJoint (upper element) = (Text.pieces isJoint element).map upper :=
    Text.pieces_map isJoint_toUpper element
  have htokens : ofToken? ∘ upper = ofToken? := funext ofToken?_upper
  rw [ofElement, upper_upper, hpieces, List.filterMap_map, htokens]
  rfl

/-- Elements that differ in the case of letters alone say the same. -/
theorem ofElement_congr {a b : List Char} (h : a.map Char.toLower = b.map Char.toLower) :
    ofElement a = ofElement b := by
  rw [← ofElement_upper a, ← ofElement_upper b, ← upper_map_toLower a, h, upper_map_toLower]

/-- A text says the same in upper case. -/
theorem ofChars_upper (cs : List Char) : ofChars (upper cs) = ofChars cs := by
  have hpieces : elements (upper cs) = (elements cs).map upper :=
    Text.pieces_map isBracket_toUpper cs
  rw [ofChars, hpieces, List.flatMap_map]
  exact List.flatMap_congr fun element _ => ofElement_upper element

/-- Texts that differ in the case of letters alone say the same. -/
theorem ofText_congr {s t : String} (h : Spells s.toList t) : ofText s = ofText t := by
  rw [ofText, ← ofChars_upper, ← upper_map_toLower, h, upper_map_toLower, ofChars_upper]
  rfl

/-! ## Sets of elements -/

theorem isWithin_iff {s t : String} :
    IsWithin s t ↔ ∀ element ∈ elements s.toList, ofElement element ≠ [] →
      ∃ element' ∈ elements t.toList, element.map Char.toLower = element'.map Char.toLower := by
  simp only [IsWithin, HasElement, elements, Text.mem_pieces_iff, isRecognised_iff]

instance (s t : String) : Decidable (IsWithin s t) :=
  decidable_of_iff _ isWithin_iff.symm

/-- A text with all the recognised elements of another has all its capabilities. -/
theorem IsWithin.subset {s t : String} (h : IsWithin s t) : ofText s ⊆ ofText t := by
  intro c hc
  obtain ⟨element, helement, hmem⟩ := mem_ofText_iff_exists.mp hc
  obtain ⟨element', helement', hcase⟩ :=
    h element helement (isRecognised_iff.mpr (List.ne_nil_of_mem hmem))
  rw [ofElement_congr hcase] at hmem
  exact mem_ofText_iff_exists.mpr ⟨element', helement', hmem⟩

end Capability

namespace SecurityClass

open Capability

/-- A bracket cuts a text into two, and each capability is in the whole just where it is in one of
them. So the class of a text is settled by its recognised elements, but for the case of letters. It
stays the same where elements in brackets are put in another order or repeated; where a text
without a recognised element is put in brackets between two elements; where a bracket is put
between two elements, or taken from there; and where the case of letters is changed. -/
theorem ofText_elementwise :
    (∀ bracket ∈ ["[", "]"], ∀ (s t : String) (c : Capability),
      c ∈ Capability.ofText (s ++ bracket ++ t) ↔
        c ∈ Capability.ofText s ∨ c ∈ Capability.ofText t) ∧
    (∀ s t, IsWithin s t → IsWithin t s → ofText s = ofText t) ∧
    (∀ as bs : List String, (∀ element, element ∈ as ↔ element ∈ bs) →
      ofText (bracketed as) = ofText (bracketed bs)) ∧
    (∀ s inserted t, IsBoundary s t →
      (∀ element, HasElement inserted element → ¬ IsRecognised element) →
      ofText (s ++ "[" ++ inserted ++ "]" ++ t) = ofText (s ++ t)) ∧
    (∀ bracket ∈ ["[", "]"], ∀ s t, IsBoundary s t →
      ofText (s ++ bracket ++ t) = ofText (s ++ t)) ∧
    ∀ s t, Spells s.toList t → ofText s = ofText t := by
  refine ⟨fun bracket hb s t c => ?_, fun s t hst hts => ?_, fun as bs h => ?_,
    fun s inserted t hst h => ?_, fun bracket hb s t hst => ?_, fun s t h => ?_⟩
  · rw [ofText_append_bracket hb, List.mem_append]
  · exact ofCapabilities_congr fun c => ⟨fun hc => hst.subset hc, fun hc => hts.subset hc⟩
  · refine ofCapabilities_congr fun c => ?_
    simp only [ofText_bracketed, List.mem_flatMap, h]
  · rw [ofText, ofText_append_bracketed, ofText_eq_nil h, List.append_nil,
      ← ofText_append_of_isBoundary hst]
    rfl
  · rw [ofText, ofText_append_bracket hb, ← ofText_append_of_isBoundary hst]
    rfl
  · exact congrArg ofCapabilities (ofText_congr h)

/-- An access point at home, in other words. -/
theorem ofText_elementwise_atHome :
    let as := ["WPA2-PSK-CCMP", "ESS"]
    let bs := ["ESS", "WPA2-PSK-CCMP", "ESS"]
    (∀ element, element ∈ as ↔ element ∈ bs) ∧ ofText (bracketed as) = ofText (bracketed bs) ∧
    IsBoundary "[WPA2-PSK-CCMP" "]" ∧
    (∀ element, HasElement "WPS][" element → ¬ IsRecognised element) ∧
    ofText ("[WPA2-PSK-CCMP" ++ "[" ++ "WPS][" ++ "]" ++ "]") = ofText "[WPA2-PSK-CCMP]" ∧
    ofText ("[WPA2-PSK-CCMP" ++ "]" ++ "]") = ofText "[WPA2-PSK-CCMP]" ∧
    Spells "[wpa2-Psk-ccmp]".toList "[WPA2-PSK-CCMP]" ∧
    ofText "[wpa2-Psk-ccmp]" = ofText "[WPA2-PSK-CCMP]" ∧
    IsWithin "wpa2-psk-ccmp[[WEP]" "[Wep][ESS][WPA2-PSK-CCMP]" ∧
    IsWithin "[Wep][ESS][WPA2-PSK-CCMP]" "wpa2-psk-ccmp[[WEP]" ∧
    ofText "wpa2-psk-ccmp[[WEP]" = ofText "[Wep][ESS][WPA2-PSK-CCMP]" := by
  intro as bs
  obtain ⟨-, hwithin, hset, hinsert, hbracket, hcase⟩ := ofText_elementwise
  have hsame : ∀ element, element ∈ as ↔ element ∈ bs := by
    intro element
    simp [as, bs]
    tauto
  have hboundary : IsBoundary "[WPA2-PSK-CCMP" "]" := .inr fun c hc => by
    cases hc
    rfl
  have hnone : ∀ element, HasElement "WPS][" element → ¬ IsRecognised element := by
    intro element helement hrecognised
    obtain ⟨c, hc⟩ := List.exists_mem_of_ne_nil _ (isRecognised_iff.mp hrecognised)
    have hmem : c ∈ Capability.ofText "WPS][" := mem_ofText_iff_exists.mpr ⟨element, helement, hc⟩
    have hnil : Capability.ofText "WPS][" = [] := by decide
    rw [hnil] at hmem
    cases hmem
  have hspells : Spells "[wpa2-Psk-ccmp]".toList "[WPA2-PSK-CCMP]" := by
    unfold Spells
    decide
  have hleft : IsWithin "wpa2-psk-ccmp[[WEP]" "[Wep][ESS][WPA2-PSK-CCMP]" := by decide
  have hright : IsWithin "[Wep][ESS][WPA2-PSK-CCMP]" "wpa2-psk-ccmp[[WEP]" := by decide
  exact ⟨hsame, hset as bs hsame, hboundary, hnone, hinsert _ _ _ hboundary hnone,
    hbracket _ (by decide) _ _ hboundary, hspells, hcase _ _ hspells, hleft, hright,
    hwithin _ _ hleft hright⟩

end SecurityClass

end WifiArbiter
