import Mathlib.Data.List.Forall2
import Mathlib.Data.Nat.Basic
import Mathlib.Tactic.SplitIfs
import WifiArbiter.Proofs.SlotText
import WifiArbiter.Text.Ascii

/-!
# Spelling

Which texts are hardware addresses, and of which. A spelling of an address is its octets, each as
two hexadecimal digits in either letter case, joined by colons or joined by hyphens; blank space may
stand around it. This is said here without reference to how a text is cut and read. The octets are
read by a decoder of which nothing is known but that it takes two hexadecimal digits for their octet
and refuses every other text of that length.

Results:
* `Hex.denotes_iff`: the digits and their values.
* `MacAddress.readOctets_eq_ok_iff`: which pieces are read as which octets.
* `MacAddress.parseWith_eq_ok_iff`: what is read as an address are its spellings.
* `MacAddress.IsSpelled.plain_eq`: with colons and in lower case, a spelling is the written form.
* `MacAddress.isHexadecimal_decode?`: the decoder at hand is as it should be.
* `MacAddress.parseWith_spelled`: reading, writing, and when two texts are of the same address.
-/

namespace WifiArbiter

/-! ## Digits -/

namespace Hex

/-- In lower case, the character is the hexadecimal digit of the value. -/
def Denotes (c : Char) (n : Nat) : Prop :=
  "0123456789abcdef".toList[n]? = some c.toLower

theorem getElem?_digits {n : Nat} {c : Char} :
    "0123456789abcdef".toList[n]? = some c ↔ n < 16 ∧ c = digit n := by
  have hdigits : ∀ n < 16, "0123456789abcdef".toList[n]? = some (digit n) := by decide
  constructor
  · intro h
    have hn : n < 16 := (List.getElem?_eq_some_iff.mp h).1
    exact ⟨hn, Option.some.inj (h.symm.trans (hdigits n hn))⟩
  · rintro ⟨hn, rfl⟩
    exact hdigits n hn

theorem toNat_lt_of_value? {c : Char} {n : Nat} (h : value? c = some n) : c.toNat < 128 := by
  have hle : ∀ d e : Char, d ≤ e ↔ d.toNat ≤ e.toNat := fun _ _ => Iff.rfl
  have hlast : '9'.toNat = 57 ∧ 'f'.toNat = 102 ∧ 'F'.toNat = 70 := by decide
  simp only [value?_eq_some_iff, hle] at h
  omega

theorem toNat_lt_of_toLower {c : Char} {n : Nat} (hn : n < 16) (h : c.toLower = digit n) :
    c.toNat < 128 := by
  have hdigit : ∀ n < 16, (digit n).toNat < 128 := by decide
  by_contra hc
  rw [Text.toLower_eq_self (not_lt.mp hc)] at h
  rw [h] at hc
  exact hc (hdigit n hn)

/-- A character has the value of a digit when that is the digit in lower case. -/
theorem value?_eq_some_iff_toLower {c : Char} {n : Nat} (hn : n < 16) :
    value? c = some n ↔ c.toLower = digit n := by
  have hascii : ∀ k < 128, ∀ n < 16,
      value? (Char.ofNat k) = some n ↔ (Char.ofNat k).toLower = digit n := by decide
  have hall : c.toNat < 128 → (value? c = some n ↔ c.toLower = digit n) :=
    Text.forall_ascii (P := fun c => value? c = some n ↔ c.toLower = digit n) fun k hk =>
      hascii k hk n hn
  -- neither side holds of a character beyond ASCII
  exact ⟨fun h => (hall (toNat_lt_of_value? h)).mp h,
    fun h => (hall (toNat_lt_of_toLower hn h)).mpr h⟩

/-- The digits are read as their values. -/
theorem denotes_iff {c : Char} {n : Nat} : Denotes c n ↔ value? c = some n := by
  rw [Denotes, getElem?_digits]
  constructor
  · rintro ⟨hn, h⟩
    exact (value?_eq_some_iff_toLower hn).mpr h
  · intro h
    exact ⟨value?_lt h, (value?_eq_some_iff_toLower (value?_lt h)).mp h⟩

end Hex

namespace MacAddress

/-! ## Spellings -/

/-- The text is two hexadecimal digits, the first for the higher half of the octet. -/
def SpellsOctet (b : UInt8) (piece : List Char) : Prop :=
  ∃ hi lo h l, piece = [hi, lo] ∧ Hex.Denotes hi h ∧ Hex.Denotes lo l ∧ b.toNat = 16 * h + l

/-- The text is the octets of the address, joined by a separator. -/
def IsJoined (a : MacAddress) (sep : Char) (cs : List Char) : Prop :=
  ∃ pieces, List.Forall₂ SpellsOctet a.octets pieces ∧ cs = [sep].intercalate pieces

/-- The text is the octets of the address, joined by colons or joined by hyphens. -/
def IsSpelled (a : MacAddress) (cs : List Char) : Prop :=
  a.IsJoined ':' cs ∨ a.IsJoined '-' cs

/-- A text with colons for hyphens, and with its ASCII letters in lower case. -/
def plain (cs : List Char) : List Char :=
  cs.map fun c => if c = '-' then ':' else c.toLower

/-- A decoder that takes two hexadecimal digits for their octet, and refuses every other text of
two octets. -/
structure OctetDecoder.IsHexadecimal (decode : OctetDecoder) : Prop where
  octet : ∀ {b : UInt8} {piece : List Char}, SpellsOctet b piece → decode 1 piece = some [b]
  refused : ∀ {piece : List Char}, byteLength piece = 2 → (∀ b, ¬ SpellsOctet b piece) →
    decode 1 piece = none

/-! ## Octets -/

section Reading

variable {decode : OctetDecoder} {b : UInt8} {piece : List Char}

theorem SpellsOctet.byteLength_eq (h : SpellsOctet b piece) : byteLength piece = 2 := by
  obtain ⟨hi, lo, m, n, rfl, hhi, hlo, -⟩ := h
  have one : ∀ {c : Char} {n : Nat}, Hex.Denotes c n → c.utf8Size = 1 := by
    intro c n hc
    have hlt : c.toNat < 128 := Hex.toNat_lt_of_value? (Hex.denotes_iff.mp hc)
    exact Char.utf8Size_eq_one_iff.mpr (Nat.le_of_lt_succ hlt)
  rw [byteLength, byteLength, byteLength, one hhi, one hlo]

/-- A piece is read as the octet that it spells. -/
theorem readOctet_eq_ok_iff (hdecode : decode.IsHexadecimal) :
    readOctet decode piece = .ok b ↔ SpellsOctet b piece := by
  constructor
  · intro h
    rw [readOctet] at h
    split at h
    · rename_i hlength
      by_cases hs : ∃ b', SpellsOctet b' piece
      · obtain ⟨b', hb'⟩ := hs
        rw [hdecode.octet hb'] at h
        cases h
        exact hb'
      · rw [hdecode.refused hlength (not_exists.mp hs)] at h
        cases h
    · cases h
  · intro h
    rw [readOctet, if_pos h.byteLength_eq, hdecode.octet h]

/-- Pieces are read as the octets that they spell, one by one. -/
theorem readOctets_eq_ok_iff (hdecode : decode.IsHexadecimal) {bs : List UInt8}
    {ps : List (List Char)} :
    readOctets decode ps = .ok bs ↔ List.Forall₂ SpellsOctet bs ps := by
  induction ps generalizing bs with
  | nil =>
    rw [readOctets, List.forall₂_nil_right_iff, Except.ok.injEq]
    exact eq_comm
  | cons p ps ih =>
    constructor
    · intro h
      rw [readOctets] at h
      cases hp : readOctet decode p with
      | error e => rw [hp] at h; cases h
      | ok b =>
        cases hps : readOctets decode ps with
        | error e => rw [hp, hps] at h; cases h
        | ok bs' =>
          rw [hp, hps] at h
          cases h
          exact .cons ((readOctet_eq_ok_iff hdecode).mp hp) (ih.mp hps)
    · intro h
      cases h with
      | cons hb hbs =>
        rw [readOctets, (readOctet_eq_ok_iff hdecode).mpr hb, ih.mpr hbs]
        rfl

/-! ## Addresses -/

theorem SpellsOctet.not_mem (h : SpellsOctet b piece) {sep : Char} (hsep : Hex.value? sep = none) :
    sep ∉ piece := by
  obtain ⟨hi, lo, m, n, rfl, hhi, hlo, -⟩ := h
  rw [Hex.denotes_iff] at hhi hlo
  intro hmem
  rcases List.mem_pair.mp hmem with rfl | rfl
  · rw [hsep] at hhi
    cases hhi
  · rw [hsep] at hlo
    cases hlo

theorem exists_spellsOctet {bs : List UInt8} {ps : List (List Char)}
    (h : List.Forall₂ SpellsOctet bs ps) (hm : piece ∈ ps) : ∃ b, SpellsOctet b piece := by
  induction h with
  | nil => cases hm
  | cons hb _ ih =>
    rcases List.mem_cons.mp hm with rfl | hm
    · exact ⟨_, hb⟩
    · exact ih hm

theorem hyphen_not_mem {bs : List UInt8} {ps : List (List Char)}
    (h : List.Forall₂ SpellsOctet bs ps) : '-' ∉ [':'].intercalate ps := by
  intro hmem
  rcases mem_intercalate hmem with hcolon | ⟨piece, hm, hc⟩
  · cases hcolon
  · obtain ⟨b, hb⟩ := exists_spellsOctet h hm
    exact hb.not_mem (by decide) hc

theorem mem_intercalate_self {sep : Char} {ps : List (List Char)} (h : 1 < ps.length) :
    sep ∈ [sep].intercalate ps := by
  cases ps with
  | nil => cases h
  | cons p ps =>
    cases ps with
    | nil => exact absurd h (lt_irrefl 1)
    | cons q qs =>
      rw [List.intercalate_cons_cons]
      simp

theorem pieces_intercalate_of_forall₂ {a : MacAddress} {ps : List (List Char)} {sep : Char}
    (h : List.Forall₂ SpellsOctet a.octets ps) (hsep : Hex.value? sep = none) :
    Text.pieces (· == sep) ([sep].intercalate ps) = ps := by
  refine Text.pieces_intercalate ?_ fun piece hm => ?_
  · rintro rfl
    have := h.length_eq
    rw [a.length_octets] at this
    cases this
  · obtain ⟨b, hb⟩ := exists_spellsOctet h hm
    exact hb.not_mem hsep

/-- The pieces of a text spell the octets of an address when the text spells the address. -/
theorem forall₂_octetPieces_iff {a : MacAddress} {cs : List Char} :
    List.Forall₂ SpellsOctet a.octets (octetPieces cs) ↔ a.IsSpelled cs := by
  constructor
  · intro h
    have hjoin : [separator cs].intercalate (octetPieces cs) = cs := Text.intercalate_pieces _ cs
    rw [separator] at hjoin
    split at hjoin
    · exact .inr ⟨_, h, hjoin.symm⟩
    · exact .inl ⟨_, h, hjoin.symm⟩
  · rintro (⟨ps, h, rfl⟩ | ⟨ps, h, rfl⟩)
    · have hsep : separator ([':'].intercalate ps) = ':' := if_neg (hyphen_not_mem h)
      rwa [octetPieces, hsep, pieces_intercalate_of_forall₂ h (by decide)]
    · have hlength : ps.length = 6 := h.length_eq.symm.trans a.length_octets
      have hsep : separator (['-'].intercalate ps) = '-' :=
        if_pos (mem_intercalate_self (by omega))
      rwa [octetPieces, hsep, pieces_intercalate_of_forall₂ h (by decide)]

/-- A text is read as an address when its pieces are read as the octets. -/
theorem parseWith_eq_ok_iff_readOctets {s : String} {a : MacAddress} :
    parseWith decode s = .ok a ↔
      readOctets decode (octetPieces (Text.trim s.toList)) = .ok a.octets := by
  constructor
  · intro h
    rw [parseWith] at h
    split_ifs at h with hcs hlength
    split at h
    · cases h
    · rename_i hr
      cases h
      exact hr
  · intro h
    -- six octets come from six pieces, and a text of six pieces is not empty
    have hlength : (octetPieces (Text.trim s.toList)).length = 6 :=
      (length_readOctets h).symm.trans a.length_octets
    have hcs : Text.trim s.toList ≠ [] := by
      intro hcs
      rw [hcs] at hlength
      cases hlength
    rw [parseWith, if_neg hcs, dif_pos hlength]
    split
    · rename_i he
      rw [h] at he
      cases he
    · rename_i bs hbs
      rw [h] at hbs
      cases hbs
      rfl

/-- What is read as an address are its spellings, with blanks around them or not. -/
theorem parseWith_eq_ok_iff (hdecode : decode.IsHexadecimal) {s : String} {a : MacAddress} :
    parseWith decode s = .ok a ↔ ∃ cs, Text.IsTrimmed s.toList cs ∧ a.IsSpelled cs := by
  rw [parseWith_eq_ok_iff_readOctets, readOctets_eq_ok_iff hdecode, forall₂_octetPieces_iff]
  simp only [Text.isTrimmed_iff, exists_eq_left']

end Reading

/-! ## Written forms -/

section Writing

variable {a : MacAddress} {cs : List Char}

theorem denotes_digit {n : Nat} (hn : n < 16) : Hex.Denotes (Hex.digit n) n :=
  Hex.denotes_iff.mpr (Hex.value?_digit hn)

theorem spellsOctet_encodeOctet (b : UInt8) : SpellsOctet b (Hex.encodeOctet b) := by
  have hb := b.toNat_lt
  exact ⟨_, _, b.toNat / 16, b.toNat % 16, rfl, denotes_digit (by omega), denotes_digit (by omega),
    by omega⟩

/-- The written form is a spelling with colons. -/
theorem isJoined_chars (a : MacAddress) : a.IsJoined ':' a.chars :=
  ⟨_, List.forall₂_map_right_iff.mpr (List.forall₂_same.mpr fun b _ => spellsOctet_encodeOctet b),
    rfl⟩

theorem plain_of_denotes {c : Char} {n : Nat} (h : Hex.Denotes c n) :
    (if c = '-' then ':' else c.toLower) = Hex.digit n := by
  rw [Hex.denotes_iff] at h
  rw [if_neg, (Hex.value?_eq_some_iff_toLower (Hex.value?_lt h)).mp h]
  rintro rfl
  cases h

theorem SpellsOctet.plain_eq {b : UInt8} {piece : List Char} (h : SpellsOctet b piece) :
    plain piece = Hex.encodeOctet b := by
  obtain ⟨hi, lo, m, n, rfl, hhi, hlo, hb⟩ := h
  have hn : n < 16 := Hex.value?_lt (Hex.denotes_iff.mp hlo)
  have hdiv : b.toNat / 16 = m := by omega
  have hmod : b.toNat % 16 = n := by omega
  rw [Hex.encodeOctet, hdiv, hmod, ← plain_of_denotes hhi, ← plain_of_denotes hlo]
  rfl

theorem plain_intercalate {sep : Char} (hsep : plain [sep] = [':']) (ps : List (List Char)) :
    plain ([sep].intercalate ps) = [':'].intercalate (ps.map plain) := by
  induction ps with
  | nil => rfl
  | cons p ps ih =>
    cases ps with
    | nil =>
      rw [List.map_cons, List.map_nil, List.intercalate_singleton, List.intercalate_singleton]
    | cons q qs =>
      rw [List.intercalate_cons_cons, List.map_cons, List.map_cons, List.intercalate_cons_cons,
        ← List.map_cons, ← ih, ← hsep, plain, List.map_append, List.map_append]
      rfl

theorem IsJoined.plain_eq {sep : Char} (hsep : plain [sep] = [':']) (h : a.IsJoined sep cs) :
    plain cs = a.chars := by
  obtain ⟨ps, hps, rfl⟩ := h
  have hpieces : ps.map plain = a.octets.map Hex.encodeOctet := by
    rw [← List.forall₂_eq_eq_eq, List.forall₂_map_left_iff, List.forall₂_map_right_iff]
    exact (hps.imp fun _ _ hb => hb.plain_eq).flip
  rw [plain_intercalate hsep, hpieces, chars]

/-- With colons and in lower case, a spelling is the written form. -/
theorem IsSpelled.plain_eq (h : a.IsSpelled cs) : plain cs = a.chars := by
  rcases h with h | h
  · exact h.plain_eq rfl
  · exact h.plain_eq rfl

theorem IsJoined.map_toLower_eq (h : a.IsJoined ':' cs) : cs.map Char.toLower = a.chars := by
  rw [← h.plain_eq rfl, plain]
  obtain ⟨ps, hps, rfl⟩ := h
  refine List.map_congr_left fun c hc => (if_neg ?_).symm
  rintro rfl
  exact hyphen_not_mem hps hc

/-- The written form is the one spelling with colons and in lower case. -/
theorem isJoined_and_lower_iff : a.IsJoined ':' cs ∧ cs.map Char.toLower = cs ↔ cs = a.chars := by
  constructor
  · rintro ⟨h, hlower⟩
    exact hlower.symm.trans h.map_toLower_eq
  · rintro rfl
    exact ⟨a.isJoined_chars, a.isJoined_chars.map_toLower_eq⟩

theorem isBlank_of_mem_chars {c : Char} (h : c ∈ a.chars) : Text.isBlank c = false := by
  have hascii : ∀ k < 128, (Hex.value? (Char.ofNat k)).isSome = true →
      Text.isBlank (Char.ofNat k) = false := by decide
  rcases value?_of_mem_chars h with rfl | hc
  · decide
  · obtain ⟨n, hn⟩ := Option.isSome_iff_exists.mp hc
    exact Text.forall_ascii (P := fun c => (Hex.value? c).isSome = true → Text.isBlank c = false)
      hascii (Hex.toNat_lt_of_value? hn) hc

/-- The written form has no blank margins. -/
theorem isTrimmed_chars (a : MacAddress) : Text.IsTrimmed a.chars a.chars :=
  ⟨[], [], by simp, by simp, by simp,
    fun _ hc => isBlank_of_mem_chars (List.mem_of_mem_head? hc),
    fun _ hc => isBlank_of_mem_chars (List.mem_of_mem_getLast? hc)⟩

end Writing

/-! ## The decoder at hand -/

theorem decode?_eq_some_iff {piece : List Char} {bs : List UInt8} :
    Hex.decode? 1 piece = some bs ↔ ∃ b, bs = [b] ∧ SpellsOctet b piece := by
  constructor
  · intro h
    match piece with
    | [] | [_] | _ :: _ :: _ :: _ => simp [Hex.decode?] at h
    | [hi, lo] =>
      simp only [Hex.decode?, Option.bind_eq_bind, Option.bind_eq_some_iff, Option.pure_def,
        Option.some.injEq] at h
      obtain ⟨m, hm, n, hn, _, rfl, rfl⟩ := h
      have hsize : 16 * m + n < UInt8.size := by
        have := Hex.value?_lt hm
        have := Hex.value?_lt hn
        simp only [UInt8.size]
        omega
      exact ⟨_, rfl, hi, lo, m, n, rfl, Hex.denotes_iff.mpr hm, Hex.denotes_iff.mpr hn,
        UInt8.toNat_ofNat_of_lt hsize⟩
  · rintro ⟨b, rfl, hi, lo, m, n, rfl, hhi, hlo, hb⟩
    rw [Hex.denotes_iff] at hhi hlo
    simp only [Hex.decode?, hhi, hlo, Option.bind_eq_bind, Option.bind_some, Option.pure_def, ← hb,
      UInt8.ofNat_toNat]

/-- The decoder of the library is as it should be. -/
theorem isHexadecimal_decode? : OctetDecoder.IsHexadecimal Hex.decode? where
  octet h := decode?_eq_some_iff.mpr ⟨_, rfl, h⟩
  refused _ h := by
    refine Option.eq_none_iff_forall_ne_some.mpr fun bs hbs => ?_
    obtain ⟨b, -, hb⟩ := decode?_eq_some_iff.mp hbs
    exact h b hb

/-! ## Reading and writing -/

/-- Whatever the decoder, if only it takes two hexadecimal digits for their octet and refuses all
else of that length: a text is read as an address just when it is a spelling of it but for blanks
around it. The written form is read back, and is the one spelling with colons and in lower case. Two
texts that are read are of the same address just when, without the blanks around them, they are the
same with colons for hyphens and in lower case. -/
theorem parseWith_spelled {decode : OctetDecoder} (hdecode : decode.IsHexadecimal) :
    (∀ s a, parseWith decode s = .ok a ↔ ∃ cs, Text.IsTrimmed s.toList cs ∧ a.IsSpelled cs) ∧
    (∀ a : MacAddress, parseWith decode a.text = .ok a ∧
      ∀ cs, a.IsJoined ':' cs ∧ cs.map Char.toLower = cs ↔ cs = a.text.toList) ∧
    ∀ s t a b, parseWith decode s = .ok a → parseWith decode t = .ok b →
      (a = b ↔ ∃ cs ds, Text.IsTrimmed s.toList cs ∧ Text.IsTrimmed t.toList ds ∧
        plain cs = plain ds) := by
  refine ⟨fun s a => parseWith_eq_ok_iff hdecode, fun a => ⟨?_, fun cs => ?_⟩, ?_⟩
  · rw [parseWith_eq_ok_iff hdecode, text, String.toList_ofList]
    exact ⟨a.chars, a.isTrimmed_chars, .inl a.isJoined_chars⟩
  · rw [text, String.toList_ofList]
    exact isJoined_and_lower_iff
  · intro s t a b hs ht
    obtain ⟨cs, hcs, ha⟩ := (parseWith_eq_ok_iff hdecode).mp hs
    obtain ⟨ds, hds, hb⟩ := (parseWith_eq_ok_iff hdecode).mp ht
    constructor
    · rintro rfl
      exact ⟨cs, ds, hcs, hds, ha.plain_eq.trans hb.plain_eq.symm⟩
    · rintro ⟨cs', ds', hcs', hds', hplain⟩
      obtain rfl : cs = cs' := (Text.isTrimmed_iff.mp hcs).symm.trans (Text.isTrimmed_iff.mp hcs')
      obtain rfl : ds = ds' := (Text.isTrimmed_iff.mp hds).symm.trans (Text.isTrimmed_iff.mp hds')
      exact chars_injective (ha.plain_eq.symm.trans (hplain.trans hb.plain_eq))

/-- Two spellings of one address, one of them with blanks around it. -/
theorem parseWith_spelled_hyphens :
    let a : MacAddress := ⟨[0x00, 0x1A, 0x2B, 0x3C, 0x4D, 0x5E], rfl⟩
    OctetDecoder.IsHexadecimal Hex.decode? ∧
    parse "\u2003 00-1A-2b-3C-4d-5E\t" = .ok a ∧ parse "00:1a:2B:3c:4D:5e" = .ok a ∧
    ∃ cs ds, Text.IsTrimmed "\u2003 00-1A-2b-3C-4d-5E\t".toList cs ∧
      Text.IsTrimmed "00:1a:2B:3c:4D:5e".toList ds ∧ plain cs = plain ds := by
  intro a
  have hs : parse "\u2003 00-1A-2b-3C-4d-5E\t" = .ok a := by decide
  have ht : parse "00:1a:2B:3c:4D:5e" = .ok a := by decide
  obtain ⟨-, -, hsame⟩ := parseWith_spelled isHexadecimal_decode?
  exact ⟨isHexadecimal_decode?, hs, ht, (hsame _ _ _ _ hs ht).mp rfl⟩

end MacAddress

end WifiArbiter
