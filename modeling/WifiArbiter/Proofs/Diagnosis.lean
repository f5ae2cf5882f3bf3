import Mathlib.Algebra.Group.Nat.Defs
import WifiArbiter.Proofs.Spelling

/-!
# Diagnosis

What is reported of a text that is no hardware address. A text of blanks is empty. Any other is cut
at its hyphens, or at its colons if it has no hyphen, and the number of pieces comes first: if it is
not six, nothing is said of the pieces. Of six pieces the first that is not two hexadecimal digits is
reported as it stands, be it empty, too long, or of characters beyond ASCII.

The decoder of octets is asked for the pieces one after the other, and it takes part only through
what it answers. What it is asked is kept in a list, and a decoder with the same answers to these
questions leads to the same result.

Results:
* `MacAddress.isOctet_iff`: two hexadecimal digits always spell an octet.
* `MacAddress.isCut_iff`: the pieces of a text, without reference to how it is cut.
* `MacAddress.readOctets_eq_error_iff`: the first piece that is no octet is reported.
* `MacAddress.parseWith_congr_questions`: the decoder is asked for nothing else.
* `MacAddress.parseWith_diagnosed`: every error, in full.
-/

namespace WifiArbiter

/-- The character is a hexadecimal digit in either letter case. -/
def Hex.IsDigit (c : Char) : Prop :=
  c.toLower ∈ "0123456789abcdef".toList

instance : DecidablePred Hex.IsDigit := fun c =>
  inferInstanceAs (Decidable (c.toLower ∈ "0123456789abcdef".toList))

theorem Hex.isDigit_iff {c : Char} : IsDigit c ↔ ∃ n, Denotes c n :=
  List.mem_iff_getElem?

namespace MacAddress

/-! ## Octets and pieces -/

/-- The text is two hexadecimal digits. -/
def IsOctet (piece : List Char) : Prop :=
  ∃ hi lo, piece = [hi, lo] ∧ Hex.IsDigit hi ∧ Hex.IsDigit lo

/-- Two hexadecimal digits always spell an octet. -/
theorem isOctet_iff {piece : List Char} : IsOctet piece ↔ ∃ b, SpellsOctet b piece := by
  constructor
  · rintro ⟨hi, lo, rfl, hhi, hlo⟩
    obtain ⟨m, hm⟩ := Hex.isDigit_iff.mp hhi
    obtain ⟨n, hn⟩ := Hex.isDigit_iff.mp hlo
    have hm' : m < 16 := Hex.value?_lt (Hex.denotes_iff.mp hm)
    have hn' : n < 16 := Hex.value?_lt (Hex.denotes_iff.mp hn)
    have hsize : 16 * m + n < UInt8.size := by simp only [UInt8.size]; omega
    exact ⟨UInt8.ofNat (16 * m + n), hi, lo, m, n, rfl, hm, hn, UInt8.toNat_ofNat_of_lt hsize⟩
  · rintro ⟨b, hi, lo, m, n, rfl, hm, hn, -⟩
    exact ⟨hi, lo, rfl, Hex.isDigit_iff.mpr ⟨m, hm⟩, Hex.isDigit_iff.mpr ⟨n, hn⟩⟩

/-- The text is cut into the pieces at each of its hyphens, or at each of its colons if it has no
hyphen. -/
def IsCut (cs : List Char) (ps : List (List Char)) : Prop :=
  ps ≠ [] ∧ (∀ piece ∈ ps, separator cs ∉ piece) ∧ [separator cs].intercalate ps = cs

theorem separator_not_mem {cs piece : List Char} (h : piece ∈ octetPieces cs) :
    separator cs ∉ piece := by
  obtain ⟨hpiece, -⟩ := Text.mem_pieces_iff.mp h
  intro hmem
  have hne := hpiece _ hmem
  simp at hne

/-- Into which pieces a text is cut, without reference to how. -/
theorem isCut_iff {cs : List Char} {ps : List (List Char)} : IsCut cs ps ↔ octetPieces cs = ps := by
  constructor
  · rintro ⟨hne, hps, hjoin⟩
    have hcut := Text.pieces_intercalate hne hps
    rwa [hjoin] at hcut
  · rintro rfl
    exact ⟨Text.pieces_ne_nil _ cs, fun _ => separator_not_mem, Text.intercalate_pieces _ cs⟩

theorem length_octetPieces_eq (cs : List Char) :
    (octetPieces cs).length = 1 + if '-' ∈ cs then cs.count '-' else cs.count ':' := by
  rw [length_octetPieces, separator, add_comm]
  split <;> rfl

/-! ## Errors -/

section Errors

variable {decode : OctetDecoder} (hdecode : decode.IsHexadecimal)

include hdecode

theorem readOctet_eq_error_iff {piece : List Char} {e : AddressError} :
    readOctet decode piece = .error e ↔
      ¬ IsOctet piece ∧ e = .invalidOctet (String.ofList piece) := by
  cases h : readOctet decode piece with
  | ok b =>
    have hpiece : IsOctet piece := isOctet_iff.mpr ⟨b, (readOctet_eq_ok_iff hdecode).mp h⟩
    simp [hpiece]
  | error e' =>
    have hpiece : ¬ IsOctet piece := by
      intro ho
      obtain ⟨b, hb⟩ := isOctet_iff.mp ho
      rw [(readOctet_eq_ok_iff hdecode).mpr hb] at h
      cases h
    have he : e' = .invalidOctet (String.ofList piece) := by
      rw [readOctet] at h
      split at h
      · split at h <;> cases h
        rfl
      · cases h
        rfl
    rw [he, Except.error.injEq, eq_comm]
    exact (and_iff_right hpiece).symm

/-- Of the pieces, the first that is no octet is reported. -/
theorem readOctets_eq_error_iff {ps : List (List Char)} {e : AddressError} :
    readOctets decode ps = .error e ↔
      ∃ before piece after, ps = before ++ piece :: after ∧ (∀ p ∈ before, IsOctet p) ∧
        ¬ IsOctet piece ∧ e = .invalidOctet (String.ofList piece) := by
  induction ps with
  | nil => simp [readOctets]
  | cons p ps ih =>
    rw [readOctets]
    cases hp : readOctet decode p with
    | error e' =>
      obtain ⟨hbad, rfl⟩ := (readOctet_eq_error_iff hdecode).mp hp
      constructor
      · intro h
        cases h
        exact ⟨[], p, ps, rfl, by simp, hbad, rfl⟩
      · rintro ⟨before, piece, after, hps, hbefore, -, rfl⟩
        -- a piece before the reported one would be an octet, and this one is not
        cases before with
        | nil => cases hps; rfl
        | cons q before =>
          cases hps
          exact absurd (hbefore p (by simp)) hbad
    | ok b =>
      have hgood : IsOctet p := isOctet_iff.mpr ⟨b, (readOctet_eq_ok_iff hdecode).mp hp⟩
      have hmap : (readOctets decode ps).map (b :: ·) = .error e ↔
          readOctets decode ps = .error e := by
        cases readOctets decode ps <;> simp [Except.map]
      rw [hmap, ih]
      constructor
      · rintro ⟨before, piece, after, rfl, hbefore, hpiece, rfl⟩
        exact ⟨p :: before, piece, after, rfl, by simpa [hgood] using hbefore, hpiece, rfl⟩
      · rintro ⟨before, piece, after, hps, hbefore, hpiece, rfl⟩
        cases before with
        | nil => cases hps; exact absurd hgood hpiece
        | cons q before =>
          cases hps
          exact ⟨before, piece, after, rfl, fun r hr => hbefore r (by simp [hr]), hpiece, rfl⟩

omit hdecode in
/-- A text is refused for being empty, else for its number of pieces, else for one of them. -/
theorem parseWith_eq_error_iff_readOctets {s : String} {e : AddressError} :
    parseWith decode s = .error e ↔
      if Text.trim s.toList = [] then e = .empty
      else if (octetPieces (Text.trim s.toList)).length ≠ 6 then
        e = .wrongOctetCount (octetPieces (Text.trim s.toList)).length
      else readOctets decode (octetPieces (Text.trim s.toList)) = .error e := by
  rw [parseWith]
  by_cases hempty : Text.trim s.toList = []
  · rw [if_pos hempty, if_pos hempty, Except.error.injEq, eq_comm]
  · rw [if_neg hempty, if_neg hempty]
    by_cases hcount : (octetPieces (Text.trim s.toList)).length = 6
    · rw [dif_pos hcount, if_neg (not_not.mpr hcount)]
      split
      · rename_i hr
        rw [hr, Except.error.injEq, Except.error.injEq]
      · rename_i hr
        simp [hr]
    · rw [dif_neg hcount, if_pos hcount, Except.error.injEq, eq_comm]

/-- Which error is reported of a text, in the order in which the errors are looked for. -/
theorem parseWith_eq_error_iff {s : String} {cs : List Char} {e : AddressError}
    (hcs : Text.IsTrimmed s.toList cs) :
    let n := 1 + if '-' ∈ cs then cs.count '-' else cs.count ':'
    parseWith decode s = .error e ↔
      if cs = [] then e = .empty
      else if n ≠ 6 then e = .wrongOctetCount n
      else ∃ before piece after, IsCut cs (before ++ piece :: after) ∧ (∀ p ∈ before, IsOctet p) ∧
        ¬ IsOctet piece ∧ e = .invalidOctet (String.ofList piece) := by
  intro n
  rw [parseWith_eq_error_iff_readOctets, Text.isTrimmed_iff.mp hcs, length_octetPieces_eq,
    readOctets_eq_error_iff hdecode]
  simp only [isCut_iff, n]

end Errors

/-! ## What the decoder is asked -/

section Questions

variable {decode decode' : OctetDecoder}

/-- What the decoder is asked for a piece: a number of octets and a text. -/
def question (piece : List Char) : List (Nat × List Char) :=
  if byteLength piece = 2 then [(1, piece)] else []

/-- What the decoder is asked for the pieces, up to the first that is no octet. -/
def questionsOn (decode : OctetDecoder) : List (List Char) → List (Nat × List Char)
  | [] => []
  | piece :: rest =>
    question piece ++
      match readOctet decode piece with
      | .error _ => []
      | .ok _ => questionsOn decode rest

/-- What the decoder is asked as a text is read. -/
def questions (decode : OctetDecoder) (s : String) : List (Nat × List Char) :=
  let cs := Text.trim s.toList
  if cs = [] ∨ (octetPieces cs).length ≠ 6 then [] else questionsOn decode (octetPieces cs)

theorem of_mem_question {piece : List Char} {q : Nat × List Char} (h : q ∈ question piece) :
    q.1 = 1 ∧ byteLength q.2 = 2 := by
  rw [question] at h
  split at h
  · rename_i hlength
    rw [List.mem_singleton] at h
    subst h
    exact ⟨rfl, hlength⟩
  · cases h

theorem of_mem_questionsOn {ps : List (List Char)} {q : Nat × List Char}
    (h : q ∈ questionsOn decode ps) : q.1 = 1 ∧ byteLength q.2 = 2 := by
  induction ps with
  | nil => cases h
  | cons p ps ih =>
    rw [questionsOn, List.mem_append] at h
    rcases h with h | h
    · exact of_mem_question h
    · cases hp : readOctet decode p with
      | error e => rw [hp] at h; cases h
      | ok b => rw [hp] at h; exact ih h

/-- The decoder is only asked for one octet, and of a text of two. -/
theorem of_mem_questions {s : String} {q : Nat × List Char} (h : q ∈ questions decode s) :
    q.1 = 1 ∧ byteLength q.2 = 2 := by
  simp only [questions] at h
  split at h
  · cases h
  · exact of_mem_questionsOn h

theorem readOctet_congr_question {piece : List Char}
    (h : ∀ q ∈ question piece, decode' q.1 q.2 = decode q.1 q.2) :
    readOctet decode' piece = readOctet decode piece := by
  rw [readOctet, readOctet]
  split
  · rename_i hlength
    have hanswer := h (1, piece) (by rw [question, if_pos hlength]; exact .head _)
    rw [hanswer]
  · rfl

theorem readOctets_congr_questionsOn {ps : List (List Char)}
    (h : ∀ q ∈ questionsOn decode ps, decode' q.1 q.2 = decode q.1 q.2) :
    readOctets decode' ps = readOctets decode ps := by
  induction ps with
  | nil => rfl
  | cons p ps ih =>
    rw [questionsOn] at h
    have hp := readOctet_congr_question fun q hq => h q (List.mem_append_left _ hq)
    rw [readOctets, readOctets, hp]
    cases hread : readOctet decode p with
    | error e => rfl
    | ok b =>
      rw [hread] at h
      rw [ih fun q hq => h q (List.mem_append_right _ hq)]

/-- A decoder with the same answers to what is asked leads to the same result. -/
theorem parseWith_congr_questions {s : String}
    (h : ∀ q ∈ questions decode s, decode' q.1 q.2 = decode q.1 q.2) :
    parseWith decode' s = parseWith decode s := by
  by_cases hpieces : Text.trim s.toList = [] ∨ (octetPieces (Text.trim s.toList)).length ≠ 6
  · -- such a text is refused before any of its pieces is read
    simp only [parseWith]
    rcases hpieces with hempty | hcount
    · rw [if_pos hempty, if_pos hempty]
    · rw [dif_neg hcount, dif_neg hcount]
  · simp only [questions] at h
    rw [if_neg hpieces] at h
    have hread := readOctets_congr_questionsOn h
    cases hr : parseWith decode s with
    | ok a =>
      rw [parseWith_eq_ok_iff_readOctets] at hr ⊢
      rw [hread, hr]
    | error e =>
      rw [parseWith_eq_error_iff_readOctets] at hr ⊢
      rwa [hread]

end Questions

/-! ## Reading what is no address -/

/-- Whatever the decoder, if only it takes two hexadecimal digits for their octet and refuses all
else of that length: the error that is reported of a text depends on what blanks around it leave. If
that is nothing, it is empty; otherwise, if there are not six pieces, their number is reported; and
otherwise the first of them that is not two hexadecimal digits. The decoder is only asked for single
octets, and of pieces that take two; what it would answer to anything else has no bearing. -/
theorem parseWith_diagnosed {decode : OctetDecoder} (hdecode : decode.IsHexadecimal) (s : String) :
    (∀ cs e, Text.IsTrimmed s.toList cs →
      let n := 1 + if '-' ∈ cs then cs.count '-' else cs.count ':'
      (parseWith decode s = .error e ↔
        if cs = [] then e = .empty
        else if n ≠ 6 then e = .wrongOctetCount n
        else ∃ before piece after, IsCut cs (before ++ piece :: after) ∧
          (∀ p ∈ before, IsOctet p) ∧ ¬ IsOctet piece ∧
          e = .invalidOctet (String.ofList piece))) ∧
    (∀ q ∈ questions decode s, q.1 = 1 ∧ byteLength q.2 = 2) ∧
    ∀ decode' : OctetDecoder, (∀ q ∈ questions decode s, decode' q.1 q.2 = decode q.1 q.2) →
      parseWith decode' s = parseWith decode s :=
  ⟨fun _ _ hcs => parseWith_eq_error_iff hdecode hcs, fun _ => of_mem_questions,
    fun _ => parseWith_congr_questions⟩

/-- The first bad piece is one character of two octets. The decoder is asked for it, and for no
piece after it. -/
theorem parseWith_diagnosed_beyondAscii :
    let s := "\u2003aa:BB:é:0g::ff\t"
    let picky : OctetDecoder := fun width piece =>
      if width = 1 ∧ byteLength piece = 2 then Hex.decode? width piece else some []
    OctetDecoder.IsHexadecimal Hex.decode? ∧
    Text.IsTrimmed s.toList "aa:BB:é:0g::ff".toList ∧ parse s = .error (.invalidOctet "é") ∧
    questions Hex.decode? s = [(1, "aa".toList), (1, "BB".toList), (1, "é".toList)] ∧
    (∀ q ∈ questions Hex.decode? s, picky q.1 q.2 = Hex.decode? q.1 q.2) ∧
    parseWith picky s = parse s := by
  intro s picky
  obtain ⟨herror, hasked, hcongr⟩ := parseWith_diagnosed isHexadecimal_decode? s
  have ht : Text.IsTrimmed s.toList "aa:BB:é:0g::ff".toList := Text.isTrimmed_iff.mpr (by decide)
  have hpicky : ∀ q ∈ questions Hex.decode? s, picky q.1 q.2 = Hex.decode? q.1 q.2 :=
    fun q hq => if_pos (hasked q hq)
  refine ⟨isHexadecimal_decode?, ht, (herror _ _ ht).mpr ?_, by decide, hpicky, hcongr picky hpicky⟩
  rw [if_neg (by decide), if_neg (by decide)]
  have hgood : ∀ p ∈ ["aa".toList, "BB".toList], IsOctet p := by
    simp only [List.forall_mem_cons]
    exact ⟨⟨'a', 'a', rfl, by decide, by decide⟩, ⟨'B', 'B', rfl, by decide, by decide⟩, by simp⟩
  have hbad : ¬ IsOctet "é".toList := by
    rintro ⟨hi, lo, h, -⟩
    cases h
  exact ⟨["aa".toList, "BB".toList], "é".toList, ["0g".toList, [], "ff".toList],
    ⟨nofun, by decide, by decide⟩, hgood, hbad, rfl⟩

end MacAddress

end WifiArbiter
