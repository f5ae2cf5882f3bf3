import WifiArbiter.Slot

/-!
# Texts of slots

The name of a network stands in the text of its slot as it is, so that it may look
like any part of such a text, or like the whole of one. All the same the text says
which slot it is of. Read from its end, it is cut at the last hash, and then at the last
slash and the one before it, since no identifier, address or security class has any.

Results:
* `Text.append_cons_inj`: a text is cut at its last separator in one way.
* `LogicalNetwork.text_injective`, `Slot.text_injective`: different networks, and
  different slots, have different texts.
* `Slot.text_unambiguous`: texts are equal just when what they are of is.
-/

namespace WifiArbiter

/-- A text is cut at its last separator in one way. -/
theorem Text.append_cons_inj {sep : Char} {as bs cs ds : List Char} (hb : sep ∉ bs)
    (hd : sep ∉ ds) (h : as ++ sep :: bs = cs ++ sep :: ds) : as = cs ∧ bs = ds := by
  rcases List.append_eq_append_iff.mp h with ⟨l, rfl, hl⟩ | ⟨l, rfl, hl⟩
  · cases l with
    | nil => exact ⟨by simp, (List.cons.inj hl).2⟩
    | cons c l =>
      obtain ⟨-, rfl⟩ := List.cons.inj hl
      exact absurd (by simp) hb
  · cases l with
    | nil => exact ⟨by simp, (List.cons.inj hl).2.symm⟩
    | cons c l =>
      obtain ⟨-, rfl⟩ := List.cons.inj hl
      exact absurd (by simp) hd

/-! ## Identifiers -/

theorem NetworkId.isDigit_of_mem_chars {id : NetworkId} {c : Char} (h : c ∈ id.chars) :
    c = '-' ∨ c.isDigit = true := by
  rw [chars, Text.integer] at h
  split at h
  · exact (List.mem_cons.mp h).imp_right Text.isDigit_of_mem_natural
  · exact .inr (Text.isDigit_of_mem_natural h)

theorem NetworkId.hash_not_mem_chars (id : NetworkId) : '#' ∉ id.chars := by
  intro h
  rcases isDigit_of_mem_chars h with h | h <;> cases h

/-! ## Addresses -/

namespace MacAddress

theorem value?_of_mem_encodeOctet {b : UInt8} {c : Char} (h : c ∈ Hex.encodeOctet b) :
    (Hex.value? c).isSome = true := by
  have hb := b.toNat_lt
  rcases List.mem_cons.mp h with rfl | h
  · rw [Hex.value?_digit (by omega)]
    rfl
  · rw [List.mem_singleton.mp h, Hex.value?_digit (by omega)]
    rfl

theorem mem_intercalate {sep : Char} {ls : List (List Char)} {c : Char}
    (h : c ∈ [sep].intercalate ls) : c = sep ∨ ∃ l ∈ ls, c ∈ l := by
  induction ls with
  | nil => cases h
  | cons l ls ih =>
    cases ls with
    | nil =>
      rw [List.intercalate_singleton] at h
      exact .inr ⟨l, .head _, h⟩
    | cons l' ls =>
      rw [List.intercalate_cons_cons, List.mem_append, List.mem_append, List.mem_singleton] at h
      rcases h with (h | h) | h
      · exact .inr ⟨l, .head _, h⟩
      · exact .inl h
      · rcases ih h with h | ⟨m, hm, hc⟩
        · exact .inl h
        · exact .inr ⟨m, .tail _ hm, hc⟩

theorem value?_of_mem_chars {a : MacAddress} {c : Char} (h : c ∈ a.chars) :
    c = ':' ∨ (Hex.value? c).isSome = true := by
  rcases mem_intercalate h with h | ⟨l, hl, hc⟩
  · exact .inl h
  · obtain ⟨b, -, rfl⟩ := List.mem_map.mp hl
    exact .inr (value?_of_mem_encodeOctet hc)

theorem slash_not_mem_chars (a : MacAddress) : '/' ∉ a.chars := by
  intro h
  rcases value?_of_mem_chars h with h | h <;> revert h <;> decide

/-- Without the colons there are the digits of the octets. -/
theorem filter_chars (a : MacAddress) : a.chars.filter (· ≠ ':') = Hex.encode a.octets := by
  have octet : ∀ b : UInt8, (Hex.encodeOctet b).filter (· ≠ ':') = Hex.encodeOctet b := by
    intro b
    rw [List.filter_eq_self]
    intro c hc
    have hv := value?_of_mem_encodeOctet hc
    have hne : c ≠ ':' := by
      rintro rfl
      revert hv
      decide
    simpa using hne
  rw [chars]
  generalize a.octets = bs
  induction bs with
  | nil => rfl
  | cons b bs ih =>
    rw [Hex.encode, List.flatMap_cons, ← Hex.encode, ← ih]
    cases bs with
    | nil =>
      rw [List.map_cons, List.map_nil, List.intercalate_singleton, octet]
      simp
    | cons b' bs =>
      rw [List.map_cons, List.map_cons, List.intercalate_cons_cons, List.filter_append,
        List.filter_append, octet]
      simp

theorem chars_injective {a b : MacAddress} (h : a.chars = b.chars) : a = b := by
  have hdigits : Hex.encode a.octets = Hex.encode b.octets := by
    rw [← filter_chars, ← filter_chars, h]
  have ha := Hex.decode?_encode a.octets
  have hb := Hex.decode?_encode b.octets
  rw [a.length_octets] at ha
  rw [b.length_octets, ← hdigits, ha] at hb
  obtain ⟨as, _⟩ := a
  obtain ⟨bs, _⟩ := b
  cases hb
  rfl

end MacAddress

/-! ## Networks -/

theorem SecurityClass.text_injective {a b : SecurityClass} (h : a.text = b.text) : a = b := by
  revert h
  cases a <;> cases b <;> decide

theorem SecurityClass.slash_not_mem_text (c : SecurityClass) : '/' ∉ c.text.toList := by
  cases c <;> decide

theorem LogicalNetwork.toList_text (n : LogicalNetwork) :
    n.text.toList = ('"' :: n.ssid.toList ++ ['"']) ++ '/' :: n.security.text.toList := by
  simp [text]

/-- Different networks have different texts. -/
theorem LogicalNetwork.text_injective {a b : LogicalNetwork} (h : a.text = b.text) : a = b := by
  have hlist := congrArg String.toList h
  rw [toList_text, toList_text] at hlist
  obtain ⟨hssid, hsecurity⟩ := Text.append_cons_inj a.security.slash_not_mem_text
    b.security.slash_not_mem_text hlist
  have hs : a.ssid.toList = b.ssid.toList := by simpa using hssid
  have hc : a.security = b.security :=
    SecurityClass.text_injective (String.toList_inj.mp hsecurity)
  obtain ⟨ssid, security⟩ := a
  cases hc
  cases String.toList_inj.mp hs
  rfl

/-! ## Slots -/

theorem Slot.toList_text (s : Slot) :
    s.text.toList =
      (s.network.text.toList ++ '/' :: s.bssid.chars) ++ '#' :: s.networkId.chars := by
  simp [text, MacAddress.text, NetworkId.text]

/-- Different slots have different texts. -/
theorem Slot.text_injective {a b : Slot} (h : a.text = b.text) : a = b := by
  have hlist := congrArg String.toList h
  rw [toList_text, toList_text] at hlist
  obtain ⟨hrest, hid⟩ := Text.append_cons_inj a.networkId.hash_not_mem_chars
    b.networkId.hash_not_mem_chars hlist
  obtain ⟨hnetwork, hbssid⟩ := Text.append_cons_inj a.bssid.slash_not_mem_chars
    b.bssid.slash_not_mem_chars hrest
  obtain ⟨network, bssid, networkId⟩ := a
  cases LogicalNetwork.text_injective (String.toList_inj.mp hnetwork)
  cases MacAddress.chars_injective hbssid
  cases NetworkId.chars_injective hid
  rfl

/-- The text of a slot is of no other slot, and that of a network of no other network, whatever the
names of networks look like. -/
theorem Slot.text_unambiguous :
    (∀ a b : Slot, a.text = b.text ↔ a = b) ∧ ∀ m n : LogicalNetwork, m.text = n.text ↔ m = n := by
  constructor
  · intro a b
    exact ⟨Slot.text_injective, congrArg Slot.text⟩
  · intro m n
    exact ⟨LogicalNetwork.text_injective, congrArg LogicalNetwork.text⟩

/-- The name of a network may look like the text of another slot. -/
example : (Slot.mk ⟨"x\"/PSK/00:11:22:33:44:55#1", .unsecured⟩ .zero ⟨-1⟩).text =
    "\"x\"/PSK/00:11:22:33:44:55#1\"/OPEN/00:00:00:00:00:00#-1" := by decide

end WifiArbiter
