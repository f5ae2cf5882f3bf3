import WifiArbiter.Registry.Basic
import WifiArbiter.Scorer

/-!
# Choices

The groups of the candidates are judged one after the other, and the best
judgment is chosen. Where the groups cannot be listed, nothing is judged.

Results:
* `Registry.chooseBy_ok`: whoever judges is asked about each group once, and then
  the answers are counted.
* `Registry.chooseAmong_ok`, `chooseAmong_error`: what the choice of a scorer comes to.
-/

namespace WifiArbiter

/-- How far a choice has come: the best judgment so far, and how many there were. -/
structure Ballot where
  choice : Judgment := .sentinel
  judged : Nat := 0

namespace Ballot

/-- Counts a judgment, if it is not an abstention. -/
def count (b : Ballot) : Option Judgment → Ballot
  | none => b
  | some j => { choice := if j.isBetter b.choice then j else b.choice, judged := b.judged + 1 }

/-- Asks for judgments of groups and counts them. -/
def poll {m : Type → Type} [Monad m] (judge : Group → m (Option Judgment)) (gs : List Group) :
    m Ballot :=
  gs.foldlM (fun b g => b.count <$> judge g) {}

end Ballot

namespace Registry

/-- What a choice leaves and gives back, once the judgments have been counted. -/
def conclude (r : Registry) (scorer : String) (ballot : Except Breakdown Ballot) :
    Effect (Except Breakdown Judgment) :=
  { registry := r
    answer := ballot.map Ballot.choice
    journal :=
      match ballot with
      | .ok b => [.chosen scorer r.size b.judged b.choice.value b.choice.slot]
      | .error _ => [] }

/-- Chooses among the candidates, with their groups as they are listed and whoever judges them. -/
def chooseBy {m : Type → Type} [Monad m] (r : Registry) (listing : Except Breakdown (List Group))
    (scorer : String) (judge : Group → m (Option Judgment)) :
    m (Effect (Except Breakdown Judgment)) :=
  r.conclude scorer <$>
    match listing with
    | .ok gs => Except.ok <$> Ballot.poll judge gs
    | .error e => pure (.error e)

/-- Chooses among the candidates, with their groups as they are listed. -/
def chooseAmong (r : Registry) (listing : Except Breakdown (List Group)) (s : Scorer) :
    Effect (Except Breakdown Judgment) :=
  Id.run (r.chooseBy listing s.identifier fun g => pure (s.judge g))

/-- Chooses among the candidates. -/
def choose (r : Registry) (s : Scorer) : Effect (Except Breakdown Judgment) :=
  r.chooseAmong r.groups s

end Registry

/-! ## Asking and counting -/

namespace Ballot

theorem foldlM_count {m : Type → Type} [Monad m] [LawfulMonad m]
    (judge : Group → m (Option Judgment)) (gs : List Group) (b : Ballot) :
    gs.foldlM (fun b g => b.count <$> judge g) b =
      (fun answers => answers.foldl count b) <$> gs.mapM judge := by
  induction gs generalizing b with
  | nil => simp
  | cons g gs ih => simp [ih]

/-- Counting keeps the best judgment and their number. -/
theorem foldl_count (b : Ballot) (answers : List (Option Judgment)) :
    answers.foldl count b =
      { choice := (answers.filterMap id).foldl
          (fun choice j => if j.isBetter choice then j else choice) b.choice
        judged := b.judged + (answers.filterMap id).length } := by
  induction answers generalizing b with
  | nil => rfl
  | cons answer answers ih =>
    rw [List.foldl_cons, ih]
    cases answer with
    | none => rfl
    | some j =>
      have hcons : (some j :: answers).filterMap id = j :: answers.filterMap id := rfl
      rw [hcons, List.foldl_cons, List.length_cons, count, Nat.add_assoc, Nat.add_comm 1]

end Ballot

namespace Scorer

/-- The judgments of a scorer on groups, without those on which it abstains. -/
def judgments (s : Scorer) (gs : List Group) : List Judgment :=
  gs.filterMap s.judge

/-- The best judgment of a scorer on groups. -/
def choose (s : Scorer) (gs : List Group) : Judgment :=
  Judgment.best (s.judgments gs)

theorem foldl_count_judge (s : Scorer) (gs : List Group) :
    (gs.map s.judge).foldl Ballot.count {} = ⟨s.choose gs, (s.judgments gs).length⟩ := by
  rw [Ballot.foldl_count, List.filterMap_map, Nat.zero_add]
  rfl

end Scorer

namespace Registry

/-- Whoever judges is asked about each group once and in order, and then the answers are
counted. -/
theorem chooseBy_ok {m : Type → Type} [Monad m] [LawfulMonad m] (r : Registry) (gs : List Group)
    (scorer : String) (judge : Group → m (Option Judgment)) :
    r.chooseBy (.ok gs) scorer judge =
      (fun answers => r.conclude scorer (.ok (answers.foldl Ballot.count {}))) <$>
        gs.mapM judge := by
  rw [chooseBy, Ballot.poll, Ballot.foldlM_count, Functor.map_map, Functor.map_map]

/-- The choice of a scorer is its best judgment. -/
theorem chooseAmong_ok (r : Registry) (gs : List Group) (s : Scorer) :
    r.chooseAmong (.ok gs) s =
      r.conclude s.identifier (.ok ⟨s.choose gs, (s.judgments gs).length⟩) := by
  rw [chooseAmong, chooseBy_ok, List.mapM_pure, map_pure, ← s.foldl_count_judge]
  rfl

/-- Where the groups cannot be listed, there is no choice. -/
theorem chooseAmong_error (r : Registry) (e : Breakdown) (s : Scorer) :
    r.chooseAmong (.error e) s = { registry := r, answer := .error e, journal := [] } := rfl

/-- All that a choice enters into the journal is what was chosen. -/
theorem eq_chosen_of_mem_journal {r : Registry} {s : Scorer} {e : Entry}
    (h : e ∈ (r.choose s).journal) :
    ∃ judged value slot, e = .chosen s.identifier r.size judged value slot := by
  rw [choose] at h
  cases hlisting : r.groups with
  | ok gs =>
    rw [hlisting, chooseAmong_ok] at h
    exact ⟨_, _, _, List.mem_singleton.mp h⟩
  | error e =>
    rw [hlisting, chooseAmong_error] at h
    cases h

end Registry

end WifiArbiter
