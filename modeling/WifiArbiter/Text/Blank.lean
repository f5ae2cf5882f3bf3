/-!
# Blank space around a text

The characters of the Unicode property White_Space, as closed ranges of code
points (25 characters, unchanged since Unicode 6.3), and the removal of a blank
margin on both sides of a text.

Results:
* `trim_append_append`: trimming removes any blank margin around a text that neither
  starts nor ends with a blank.
* `isTrimmed_iff`: trimming leaves the one part of a text with blanks only around it
  and none at its ends.
-/

namespace WifiArbiter.Text

/-- The White_Space characters: closed ranges of code points, ascending and apart. -/
def blankRanges : List (Nat × Nat) :=
  [(0x09, 0x0D), (0x20, 0x20), (0x85, 0x85), (0xA0, 0xA0), (0x1680, 0x1680), (0x2000, 0x200A),
    (0x2028, 0x2029), (0x202F, 0x202F), (0x205F, 0x205F), (0x3000, 0x3000)]

/-- A character with the property White_Space. -/
def isBlank (c : Char) : Bool :=
  blankRanges.any fun r => r.1 ≤ c.toNat && c.toNat ≤ r.2

/-- A text without the blanks at its start. -/
def trimStart (cs : List Char) : List Char :=
  cs.dropWhile isBlank

/-- A text without the blanks at its end. -/
def trimEnd (cs : List Char) : List Char :=
  (trimStart cs.reverse).reverse

/-- A text without its blank margins. -/
def trim (cs : List Char) : List Char :=
  trimEnd (trimStart cs)

/-! ## Trimming -/

theorem trimStart_append {margin cs : List Char} (h : ∀ c ∈ margin, isBlank c = true) :
    trimStart (margin ++ cs) = trimStart cs := by
  induction margin with
  | nil => rfl
  | cons c margin ih =>
    have hc := h c (by simp)
    simpa [trimStart, List.dropWhile_cons, hc] using ih fun d hd => h d (by simp [hd])

theorem trimStart_eq_self {cs : List Char} (h : ∀ c ∈ cs.head?, isBlank c = false) :
    trimStart cs = cs := by
  cases cs with
  | nil => rfl
  | cons c cs => simp [trimStart, h c (by simp)]

theorem trimEnd_append {cs margin : List Char} (h : ∀ c ∈ margin, isBlank c = true) :
    trimEnd (cs ++ margin) = trimEnd cs := by
  rw [trimEnd, List.reverse_append, trimStart_append (by simpa using h), ← trimEnd]

theorem trimEnd_eq_self {cs : List Char} (h : ∀ c ∈ cs.getLast?, isBlank c = false) :
    trimEnd cs = cs := by
  rw [trimEnd, trimStart_eq_self (by simpa using h), List.reverse_reverse]

/-- Blank margins of any length fall away. -/
theorem trim_append_append {before cs after : List Char} (hb : ∀ c ∈ before, isBlank c = true)
    (ha : ∀ c ∈ after, isBlank c = true) (hs : ∀ c ∈ cs.head?, isBlank c = false)
    (he : ∀ c ∈ cs.getLast?, isBlank c = false) : trim (before ++ cs ++ after) = cs := by
  rw [trim, List.append_assoc, trimStart_append hb]
  cases cs with
  | nil =>
    have h : trimStart (after ++ []) = [] := trimStart_append ha
    rw [List.append_nil] at h
    rw [List.nil_append, h]
    rfl
  | cons c cs =>
    rw [trimStart_eq_self (by simpa using hs), trimEnd_append ha, trimEnd_eq_self he]

/-! ## What trimming leaves -/

/-- What remains of a text without the blanks at its start and at its end. -/
def IsTrimmed (cs core : List Char) : Prop :=
  ∃ before after, cs = before ++ core ++ after ∧ (∀ c ∈ before, isBlank c = true) ∧
    (∀ c ∈ after, isBlank c = true) ∧ (∀ c ∈ core.head?, isBlank c = false) ∧
    ∀ c ∈ core.getLast?, isBlank c = false

/-- A blank margin falls away at the start, and what is left starts with no blank. -/
theorem eq_append_trimStart (cs : List Char) :
    ∃ margin, cs = margin ++ trimStart cs ∧ (∀ c ∈ margin, isBlank c = true) ∧
      ∀ c ∈ (trimStart cs).head?, isBlank c = false := by
  induction cs with
  | nil => exact ⟨[], rfl, by simp, by simp [trimStart]⟩
  | cons c cs ih =>
    cases hc : isBlank c with
    | true =>
      obtain ⟨margin, hcs, hmargin, hhead⟩ := ih
      have hstart : trimStart (c :: cs) = trimStart cs := by simp [trimStart, hc]
      rw [hstart]
      exact ⟨c :: margin, congrArg (c :: ·) hcs, by simpa [hc] using hmargin, hhead⟩
    | false =>
      have hstart : trimStart (c :: cs) = c :: cs := by simp [trimStart, hc]
      rw [hstart]
      exact ⟨[], rfl, by simp, by simpa using hc⟩

/-- A blank margin falls away at the end, and what is left ends with no blank. -/
theorem eq_trimEnd_append (cs : List Char) :
    ∃ margin, cs = trimEnd cs ++ margin ∧ (∀ c ∈ margin, isBlank c = true) ∧
      ∀ c ∈ (trimEnd cs).getLast?, isBlank c = false := by
  obtain ⟨margin, hcs, hmargin, hhead⟩ := eq_append_trimStart cs.reverse
  refine ⟨margin.reverse, ?_, by simpa using hmargin, by simpa [trimEnd] using hhead⟩
  rw [trimEnd, ← List.reverse_append, ← hcs, List.reverse_reverse]

theorem isTrimmed_trim (cs : List Char) : IsTrimmed cs (trim cs) := by
  obtain ⟨before, hcs, hbefore, hhead⟩ := eq_append_trimStart cs
  obtain ⟨after, hstart, hafter, hlast⟩ := eq_trimEnd_append (trimStart cs)
  refine ⟨before, after, ?_, hbefore, hafter, fun c hc => hhead c ?_, hlast⟩
  · rw [trim, List.append_assoc, ← hstart, ← hcs]
  · have hcore : (trimEnd (trimStart cs)).head? = some c := hc
    rw [hstart, List.head?_append, hcore]
    rfl

/-- Trimming leaves the one part of a text that its blank margins leave. -/
theorem isTrimmed_iff {cs core : List Char} : IsTrimmed cs core ↔ trim cs = core := by
  constructor
  · rintro ⟨before, after, rfl, hb, ha, hs, he⟩
    exact trim_append_append hb ha hs he
  · rintro rfl
    exact isTrimmed_trim cs

end WifiArbiter.Text
