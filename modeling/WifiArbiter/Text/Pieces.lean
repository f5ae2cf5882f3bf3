/-!
# The pieces of a text between separators

`pieces p cs` cuts the text `cs` at every character for which `p` holds. A text
always has at least one piece, and two separators side by side have an empty
piece between them.

Results:
* `length_pieces`: there is one piece more than there are separators.
* `pieces_append_cons`: a separator cuts a text into two texts whose pieces are
  listed one after the other.
* `pieces_eq_singleton`: a text without separators is its own only piece.
* `pieces_map`: a change of characters that leaves the separators changes the pieces alike.
* `mem_pieces_iff`: the pieces are what stands between two neighbouring separators,
  or between a separator and an end of the text.
* `intercalate_pieces`, `pieces_intercalate`: cutting at a character and joining by
  it undo each other.
-/

namespace WifiArbiter.Text

/-- Puts a character in front of the first piece. -/
def extendHead (c : Char) : List (List Char) → List (List Char)
  | [] => [[c]]
  | piece :: rest => (c :: piece) :: rest

/-- The pieces of a text between the characters for which `p` holds. -/
def pieces (p : Char → Bool) : List Char → List (List Char)
  | [] => [[]]
  | c :: cs => if p c then [] :: pieces p cs else extendHead c (pieces p cs)

theorem pieces_ne_nil (p : Char → Bool) (cs : List Char) : pieces p cs ≠ [] := by
  cases cs with
  | nil => simp [pieces]
  | cons c cs =>
    rw [pieces]
    split
    · simp
    · unfold extendHead; split <;> simp

theorem length_extendHead {c : Char} {ps : List (List Char)} (h : ps ≠ []) :
    (extendHead c ps).length = ps.length := by
  cases ps with
  | nil => exact absurd rfl h
  | cons q qs => rfl

theorem extendHead_append {c : Char} {ps qs : List (List Char)} (h : ps ≠ []) :
    extendHead c (ps ++ qs) = extendHead c ps ++ qs := by
  cases ps with
  | nil => exact absurd rfl h
  | cons q qs => rfl

/-- There is one piece more than there are separators. -/
theorem length_pieces (p : Char → Bool) (cs : List Char) :
    (pieces p cs).length = cs.countP p + 1 := by
  induction cs with
  | nil => rfl
  | cons c cs ih =>
    rw [pieces]
    split
    · rename_i h; simp [ih, h]
    · rename_i h; rw [length_extendHead (pieces_ne_nil p cs), ih]; simp [h]

/-- A separator cuts a text into two, each with pieces of its own. -/
theorem pieces_append_cons {p : Char → Bool} {c : Char} (hc : p c = true) (as bs : List Char) :
    pieces p (as ++ c :: bs) = pieces p as ++ pieces p bs := by
  induction as with
  | nil => simp [pieces, hc]
  | cons a as ih =>
    simp only [List.cons_append, pieces, ih]
    split
    · rfl
    · exact extendHead_append (pieces_ne_nil p as)

/-- A text without separators is its own only piece. -/
theorem pieces_eq_singleton {p : Char → Bool} {cs : List Char} (h : ∀ c ∈ cs, p c = false) :
    pieces p cs = [cs] := by
  induction cs with
  | nil => rfl
  | cons c cs ih =>
    have hc : p c = false := h c (by simp)
    simp [pieces, hc, ih fun d hd => h d (by simp [hd]), extendHead]

theorem extendHead_map (f : Char → Char) (c : Char) (ps : List (List Char)) :
    extendHead (f c) (ps.map (List.map f)) = (extendHead c ps).map (List.map f) := by
  cases ps <;> rfl

/-- Where characters are changed, but separators stay separators and no others become so, the
pieces are changed in the same way. -/
theorem pieces_map {p : Char → Bool} {f : Char → Char} (h : ∀ c, p (f c) = p c) (cs : List Char) :
    pieces p (cs.map f) = (pieces p cs).map (List.map f) := by
  induction cs with
  | nil => rfl
  | cons c cs ih =>
    rw [List.map_cons, pieces, pieces, h, ih]
    split
    · rfl
    · exact extendHead_map f c _

/-! ## Which pieces there are -/

/-- A part of a text without separators, with a separator or the end of the text on either side. -/
def IsPiece (p : Char → Bool) (cs piece : List Char) : Prop :=
  (∀ c ∈ piece, p c = false) ∧ ∃ before after, cs = before ++ piece ++ after ∧
    (∀ c ∈ before.getLast?, p c = true) ∧ ∀ c ∈ after.head?, p c = true

theorem isPiece_of_mem_pieces {p : Char → Bool} {cs piece : List Char} (h : piece ∈ pieces p cs) :
    IsPiece p cs piece := by
  -- the text is cut at its first separator, and what follows that is a shorter text
  cases hfirst : cs.find? p with
  | none =>
    have hcs : ∀ c ∈ cs, p c = false := by simpa using List.find?_eq_none.mp hfirst
    rw [pieces_eq_singleton hcs, List.mem_singleton] at h
    subst h
    exact ⟨hcs, [], [], by simp, by simp, by simp⟩
  | some c =>
    obtain ⟨hc, as, bs, hcs, has⟩ := List.find?_eq_some_iff_append.mp hfirst
    have has' : ∀ a ∈ as, p a = false := by simpa using has
    rw [hcs, pieces_append_cons hc, pieces_eq_singleton has', List.mem_append,
      List.mem_singleton] at h
    rcases h with rfl | h
    · exact ⟨has', [], c :: bs, hcs, by simp, by simpa using hc⟩
    · obtain ⟨hpiece, before, after, hbs, hbefore, hafter⟩ := isPiece_of_mem_pieces h
      refine ⟨hpiece, as ++ c :: before, after, by simp [hcs, hbs], ?_, hafter⟩
      cases before with
      | nil => simpa using hc
      | cons b before => simpa [List.getLast?_append, List.getLast?_cons_cons] using hbefore
termination_by cs.length
decreasing_by simp [hcs]; omega

theorem IsPiece.mem_pieces {p : Char → Bool} {cs piece : List Char} (h : IsPiece p cs piece) :
    piece ∈ pieces p cs := by
  obtain ⟨hpiece, before, after, rfl, hbefore, hafter⟩ := h
  have hrest : piece ∈ pieces p (piece ++ after) := by
    cases after with
    | nil => simp [pieces_eq_singleton hpiece]
    | cons c after => simp [pieces_append_cons (hafter c rfl), pieces_eq_singleton hpiece]
  rw [List.append_assoc]
  rcases List.eq_nil_or_concat before with rfl | ⟨before, c, rfl⟩
  · exact hrest
  · rw [List.concat_eq_append, List.append_assoc, List.singleton_append,
      pieces_append_cons (hbefore c (by simp))]
    exact List.mem_append_right _ hrest

/-- The pieces of a text are its parts between separators. -/
theorem mem_pieces_iff {p : Char → Bool} {cs piece : List Char} :
    piece ∈ pieces p cs ↔ IsPiece p cs piece :=
  ⟨isPiece_of_mem_pieces, IsPiece.mem_pieces⟩

/-! ## Joining pieces -/

/-- Joining the pieces of a text by the separator between them gives the text. -/
theorem intercalate_pieces (sep : Char) (cs : List Char) :
    [sep].intercalate (pieces (· == sep) cs) = cs := by
  induction cs with
  | nil => rfl
  | cons c cs ih =>
    obtain ⟨piece, rest, hp⟩ := List.exists_cons_of_ne_nil (pieces_ne_nil (· == sep) cs)
    rw [pieces]
    rw [hp] at ih ⊢
    split
    · rename_i hc
      rw [List.intercalate_cons_cons, ih, beq_iff_eq.mp hc]
      rfl
    · rw [extendHead]
      cases rest with
      | nil =>
        rw [List.intercalate_singleton] at ih ⊢
        rw [ih]
      | cons q qs =>
        rw [List.intercalate_cons_cons] at ih ⊢
        rw [← ih]
        rfl

/-- Texts without the separator are the pieces of the text in which it joins them. -/
theorem pieces_intercalate {sep : Char} {ps : List (List Char)} (hne : ps ≠ [])
    (h : ∀ piece ∈ ps, sep ∉ piece) : pieces (· == sep) ([sep].intercalate ps) = ps := by
  induction ps with
  | nil => exact absurd rfl hne
  | cons p ps ih =>
    have hp : pieces (· == sep) p = [p] := pieces_eq_singleton fun c hc =>
      beq_eq_false_iff_ne.mpr fun hsep => h p (.head _) (hsep ▸ hc)
    cases ps with
    | nil => rw [List.intercalate_singleton, hp]
    | cons q qs =>
      have hcut : pieces (· == sep) (p ++ sep :: [sep].intercalate (q :: qs)) =
          pieces (· == sep) p ++ pieces (· == sep) ([sep].intercalate (q :: qs)) :=
        pieces_append_cons (by simp) _ _
      rw [List.intercalate_cons_cons, List.append_assoc, List.singleton_append, hcut, hp,
        ih (by simp) fun piece hm => h piece (.tail _ hm)]
      rfl

end WifiArbiter.Text
