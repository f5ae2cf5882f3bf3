import WifiArbiter.Text.Hidden

/-!
# Quoted texts

A text between double quotes, in which a backslash stands before each quote and
backslash, tab, line feed, carriage return and the null character have a sign of
their own after one, and every other hidden character is written as its code point
in hexadecimal between braces. All that is left stands for itself.

Results:
* `isHidden_of_mem_quoted`: nothing in a quoted text is hidden.
-/

namespace WifiArbiter.Text

/-- The sign that stands for a character after a backslash, if there is one. -/
def sign? : Char → Option Char
  | '"' => some '"'
  | '\\' => some '\\'
  | '\t' => some 't'
  | '\n' => some 'n'
  | '\r' => some 'r'
  | '\x00' => some '0'
  | _ => none

/-- A character as it is written between quotes. -/
def escape (c : Char) : List Char :=
  match sign? c with
  | some sign => ['\\', sign]
  | none =>
    if isHidden c then ['\\', 'u', '\x7b'] ++ Nat.toDigits 16 c.toNat ++ ['\x7d']
    else [c]

/-- A text between quotes. -/
def quoted (s : String) : String :=
  String.ofList ('"' :: s.toList.flatMap escape ++ ['"'])

/-! ## What is written -/

theorem isHidden_of_sign? {c sign : Char} (h : sign? c = some sign) : isHidden sign = false := by
  unfold sign? at h
  split at h <;> cases h <;> decide

theorem isHidden_of_mem_toDigits {n : Nat} {d : Char} (h : d ∈ Nat.toDigits 16 n) :
    isHidden d = false := by
  have digit : ∀ k < 16, isHidden (Nat.digitChar k) = false := by decide
  induction n using Nat.strongRecOn with
  | ind n ih =>
    rw [Nat.toDigits_eq_if (by decide)] at h
    split at h
    case isTrue hn =>
      rw [List.mem_singleton.mp h]
      exact digit n hn
    case isFalse hn =>
      rcases List.mem_append.mp h with h | h
      · exact ih (n / 16) (by omega) h
      · rw [List.mem_singleton.mp h]
        exact digit (n % 16) (Nat.mod_lt n (by decide))

theorem isHidden_of_mem_escape {c d : Char} (h : d ∈ escape c) : isHidden d = false := by
  unfold escape at h
  split at h
  case h_1 sign hsign =>
    rcases List.mem_cons.mp h with rfl | h
    · decide
    · rw [List.mem_singleton.mp h]
      exact isHidden_of_sign? hsign
  case h_2 =>
    split at h
    case isTrue =>
      rcases List.mem_append.mp h with h | h
      · rcases List.mem_append.mp h with h | h
        · simp only [List.mem_cons, List.not_mem_nil, or_false] at h
          rcases h with rfl | rfl | rfl <;> decide
        · exact isHidden_of_mem_toDigits h
      · rw [List.mem_singleton.mp h]
        decide
    case isFalse hc =>
      rw [List.mem_singleton.mp h]
      exact Bool.eq_false_iff.mpr hc

/-- Whatever a text holds, nothing in its quoted form is hidden. -/
theorem isHidden_of_mem_quoted {s : String} {d : Char} (h : d ∈ (quoted s).toList) :
    isHidden d = false := by
  rw [quoted, String.toList_ofList, List.mem_append, List.mem_cons, List.mem_flatMap] at h
  rcases h with (rfl | ⟨c, -, h⟩) | h
  · decide
  · exact isHidden_of_mem_escape h
  · rw [List.mem_singleton.mp h]
    decide

/-- The accent is written out, as it would else be seen on the letter before it. -/
example : quoted "cafe\u0301\t\"é\"" = "\"cafe\\u\x7b301\x7d\\t\\\"é\\\"\"" := by decide +kernel

end WifiArbiter.Text
