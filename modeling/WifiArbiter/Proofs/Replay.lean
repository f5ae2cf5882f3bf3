import WifiArbiter.Proofs.Coherence
import WifiArbiter.Proofs.SlotText

/-!
# Replay

Who reads the journal of a registry knows its candidates. A reader goes by the level,
the message and the fields of each entry alone, and writes down the nominator and the
score of each occupant under the text of its slot. No entry comes unexpected: a slot
that a candidate enters is not on the reader's roster, each other slot that the journal
speaks of is, and the score of its occupant is the one on the roster.

Results:
* `Roster.IsOf.settle`: what one outcome enters into the journal is as expected, and the
  roster is of the registry afterwards as before.
* `Registry.isOf_run`: the roster that is read from the journal of a run.
* `Step.journalsFault`: how a fault stands in the journal.
* `Registry.journal_run`: all this of the runs of a fresh registry.
-/

namespace WifiArbiter

namespace Entry

/-- The text in a field of an entry. -/
def text? (e : Entry) (name : String) : Option String :=
  match e.fields.lookup name with
  | some (.text s) => some s
  | _ => none

/-- The integer in a field of an entry. -/
def integer? (e : Entry) (name : String) : Option Int :=
  match e.fields.lookup name with
  | some (.integer n) => some n
  | _ => none

/-- Whether an entry is about a fault. -/
def isFault (e : Entry) : Bool :=
  e.message = "Candidate fault" ∨ e.message = "Candidate fault recorded"

end Entry

/-! ## Rosters -/

/-- The nominators and the scores of the occupants, by the texts of their slots. -/
abbrev Roster := Table String (Int × Int)

namespace Roster

/-- The roster after one more entry. -/
def read (t : Roster) (e : Entry) : Roster :=
  match e.level, e.text? "key" with
  | .trace, some key =>
    if e.message = "Adding candidate" then
      match e.integer? "nominator_index", e.integer? "nominator_score" with
      | some index, some score => t.insert key (index, score)
      | _, _ => t
    else if e.message = "Replacing candidate" then
      match t.get? key, e.integer? "nominator_score" with
      | some (index, _), some score => t.insert key (index, score)
      | _, _ => t
    else if e.message = "Removed candidate" then t.erase key
    else t
  | _, _ => t

/-- The roster after a journal. -/
def replay (journal : List Entry) : Roster :=
  journal.foldl read .empty

/-- An entry is as expected. Of the traces, just those of additions are of slots that are not on
the roster, and a score of an occupant is the one on the roster. -/
structure Expects (t : Roster) (e : Entry) : Prop where
  key : e.level = .trace → ∃ key, e.text? "key" = some key ∧
    (t.get? key = none ↔ e.message = "Adding candidate")
  score : e.message = "Replacing candidate" ∨ e.message = "Nomination kept incumbent" →
    ∃ key index score, e.text? "key" = some key ∧ t.get? key = some (index, score) ∧
      e.integer? "occupant_score" = some score

/-- All entries are as expected when they are read. -/
def ExpectsAll (t : Roster) : List Entry → Prop
  | [] => True
  | e :: es => t.Expects e ∧ (t.read e).ExpectsAll es

theorem expectsAll_append {t : Roster} {es fs : List Entry} :
    t.ExpectsAll (es ++ fs) ↔ t.ExpectsAll es ∧ (es.foldl read t).ExpectsAll fs := by
  induction es generalizing t with
  | nil => simp [ExpectsAll]
  | cons e es ih => rw [List.cons_append, ExpectsAll, ih, ExpectsAll, List.foldl_cons, and_assoc]

/-! ## Entries of each kind -/

section Kinds

variable {t : Roster} {slot : Slot} {nominator : UInt32} {score occupantScore : Int32}

theorem read_added : t.read (.added slot nominator score) =
    t.insert slot.text (nominator.toNat, score.toInt) := rfl

theorem read_replaced {index old : Int} (h : t.get? slot.text = some (index, old)) :
    t.read (.replaced slot score occupantScore) = t.insert slot.text (index, score.toInt) := by
  have hread : t.read (.replaced slot score occupantScore) =
      match t.get? slot.text, some score.toInt with
      | some (index, _), some score => t.insert slot.text (index, score)
      | _, _ => t := rfl
  rw [hread, h]

theorem read_kept : t.read (.kept slot nominator score occupantScore) = t := rfl

theorem read_removed : t.read (.removed slot) = t.erase slot.text := rfl

theorem read_of_level_ne {e : Entry} (h : e.level ≠ .trace) : t.read e = t := by
  unfold read
  split
  · contradiction
  · rfl

theorem expects_of_level_ne {e : Entry} (h : e.level ≠ .trace) : t.Expects e := by
  refine ⟨fun ht => absurd ht h, ?_⟩
  cases e with
  | added | replaced | kept | removed => exact absurd rfl h
  | faulted strict _ _ => cases strict <;> simp [Entry.message]
  | chosen => simp [Entry.message]

theorem expects_added (h : t.get? slot.text = none) :
    t.Expects (.added slot nominator score) :=
  ⟨fun _ => ⟨slot.text, rfl, iff_of_true h rfl⟩, by simp [Entry.message]⟩

theorem expects_replaced {index : Int} (h : t.get? slot.text = some (index, occupantScore.toInt)) :
    t.Expects (.replaced slot score occupantScore) :=
  ⟨fun _ => ⟨slot.text, rfl, by simp [h, Entry.message]⟩,
    fun _ => ⟨slot.text, index, _, rfl, h, rfl⟩⟩

theorem expects_kept {index : Int} (h : t.get? slot.text = some (index, occupantScore.toInt)) :
    t.Expects (.kept slot nominator score occupantScore) :=
  ⟨fun _ => ⟨slot.text, rfl, by simp [h, Entry.message]⟩,
    fun _ => ⟨slot.text, index, _, rfl, h, rfl⟩⟩

theorem expects_removed (h : t.get? slot.text ≠ none) : t.Expects (.removed slot) :=
  ⟨fun _ => ⟨slot.text, rfl, by simp [h, Entry.message]⟩, by simp [Entry.message]⟩

end Kinds

end Roster

/-! ## Calls without a trace -/

/-- A fault leaves no trace. -/
theorem Registry.level_ne_of_mem_journal_fail (r : Registry) (f : Fault) :
    ∀ e ∈ (r.fail f).journal, e.level ≠ .trace := by
  intro e he
  rw [fail] at he
  dsimp only at he
  split_ifs at he
  · rw [List.mem_singleton.mp he]
    cases r.settings.strict <;> simp [Entry.level]
  · cases he

/-- What is neither a nomination nor a removal leaves no trace, and is no fault. -/
theorem Step.of_mem_journal_of_none {s : Step} (h : s.outcome = none) :
    ∀ e ∈ s.journal, e.level ≠ .trace ∧ e.isFault = false := by
  have ha := isArbitration_of_none h
  obtain ⟨r, call⟩ := s
  cases call with
  | nominate _ | remove _ => cases ha
  | clearFaults | setStrict _ => exact fun _ he => absurd he List.not_mem_nil
  | choose s =>
    intro e he
    obtain ⟨judged, value, slot, rfl⟩ := Registry.eq_chosen_of_mem_journal he
    exact ⟨by simp [Entry.level], rfl⟩

/-! ## Rosters of registries -/

/-- What a roster has of a candidate. -/
def Candidate.standing (c : Candidate) : Int × Int :=
  (c.nominator.toNat, c.score.toInt)

/-- The roster has the occupants of the registry, and nothing else. -/
structure Roster.IsOf (t : Roster) (r : Registry) : Prop where
  get?_text : ∀ slot : Slot, t.get? slot.text = (r.get? slot).map Candidate.standing
  exists_slot : ∀ key, t.get? key ≠ none → ∃ slot : Slot, slot.text = key

namespace Roster.IsOf

variable {t : Roster} {r s : Registry} {c : Candidate}

theorem empty (settings : Settings) (signals : Option SignalHistory) :
    Roster.IsOf .empty (Registry.fresh settings signals) :=
  ⟨fun slot => by simp, fun key h => absurd rfl h⟩

theorem congr (h : t.IsOf r) (hs : ∀ slot, s.get? slot = r.get? slot) : t.IsOf s :=
  ⟨fun slot => by rw [h.get?_text, hs], h.exists_slot⟩

/-- There is a change in one slot, and under its text. -/
theorem change {u : Roster} {own : Slot} {o : Option Candidate} (h : t.IsOf r)
    (hu : ∀ key, u.get? key = if key = own.text then o.map Candidate.standing else t.get? key)
    (hs : ∀ slot, s.get? slot = if slot = own then o else r.get? slot) : u.IsOf s := by
  constructor
  · intro slot
    rw [hu, hs, h.get?_text]
    -- no other slot has the text
    by_cases hslot : slot = own
    · rw [if_pos hslot, if_pos (congrArg Slot.text hslot)]
    · rw [if_neg hslot, if_neg fun htext => hslot (Slot.text_injective htext)]
  · intro key hkey
    rw [hu] at hkey
    split_ifs at hkey with htext
    · exact ⟨own, htext.symm⟩
    · exact h.exists_slot key hkey

/-- A candidate enters its slot. -/
theorem insert (h : t.IsOf r)
    (hs : ∀ slot, s.get? slot = if slot = c.slot then some c else r.get? slot) :
    Roster.IsOf (Table.insert t c.slot.text c.standing) s :=
  h.change (fun key => Table.get?_insert t c.slot.text key c.standing) hs

/-- A candidate leaves its slot. -/
theorem erase (h : t.IsOf r)
    (hs : ∀ slot, s.get? slot = if slot = c.slot then none else r.get? slot) :
    Roster.IsOf (Table.erase t c.slot.text) s :=
  h.change (fun key => Table.get?_erase t c.slot.text key) hs

/-- Nothing happens to the occupants, and nothing is traced. -/
theorem of_forall_level_ne {es : List Entry} (h : t.IsOf r) (hs : ∀ slot, s.get? slot = r.get? slot)
    (hes : ∀ e ∈ es, e.level ≠ .trace) : t.ExpectsAll es ∧ Roster.IsOf (es.foldl read t) s := by
  induction es with
  | nil => exact ⟨trivial, h.congr hs⟩
  | cons e es ih =>
    obtain ⟨he, hes⟩ := List.forall_mem_cons.mp hes
    rw [ExpectsAll, List.foldl_cons, read_of_level_ne he]
    exact ⟨⟨expects_of_level_ne he, (ih hes).1⟩, (ih hes).2⟩

theorem get?_text_of_some {slot : Slot} (h : t.IsOf r) (hc : r.get? slot = some c) :
    t.get? slot.text = some c.standing := by
  rw [h.get?_text, hc]
  rfl

/-- What is on the roster of a coherent registry. -/
theorem get?_eq_some_iff {key : String} {index score : Int} (h : t.IsOf r) (hr : r.IsCoherent) :
    t.get? key = some (index, score) ↔ ∃ c ∈ r.candidates,
      c.slot.text = key ∧ index = c.nominator.toNat ∧ score = c.score.toInt := by
  constructor
  · intro hkey
    obtain ⟨slot, rfl⟩ := h.exists_slot key (by simp [hkey])
    rw [h.get?_text, Option.map_eq_some_iff] at hkey
    obtain ⟨c, hc, hstanding⟩ := hkey
    cases hstanding
    exact ⟨c, Table.mem_values_iff.mpr ⟨slot, hc⟩, by rw [hr.slot_eq hc], rfl, rfl⟩
  · rintro ⟨c, hmem, rfl, rfl, rfl⟩
    obtain ⟨slot, hc⟩ := Table.mem_values_iff.mp hmem
    obtain rfl : c.slot = slot := hr.slot_eq hc
    exact h.get?_text_of_some hc

/-- What an outcome enters into the journal is as expected, and with it the roster is of the
registry that the outcome leaves. -/
theorem settle {call : Call} {o : Outcome} (h : t.IsOf r) (ho : r.outcome call = some o) :
    t.ExpectsAll (r.settle o).journal ∧
      Roster.IsOf ((r.settle o).journal.foldl read t) (r.settle o).registry := by
  have hget := r.get?_settle o
  cases o with
  | addition c =>
    obtain ⟨_, _, _, hnone⟩ := Registry.outcome_eq_addition_iff.mp ho
    have habsent : t.get? c.slot.text = none := by
      rw [h.get?_text, hnone]
      rfl
    rw [Registry.settle, List.foldl_cons, read_added]
    exact ⟨⟨expects_added habsent, trivial⟩, h.insert hget⟩
  | replacement c o =>
    obtain ⟨_, _, _, ho, hi, -⟩ := Registry.outcome_eq_replacement_iff.mp ho
    have hold := h.get?_text_of_some ho
    -- the nominator on the roster is the candidate's own
    rw [Registry.settle, List.foldl_cons, read_replaced hold, ← hi]
    exact ⟨⟨expects_replaced hold, trivial⟩, h.insert hget⟩
  | rejection c o =>
    obtain ⟨_, _, _, ho, -⟩ := Registry.outcome_eq_rejection_iff.mp ho
    rw [Registry.settle, List.foldl_cons, read_kept]
    exact ⟨⟨expects_kept (h.get?_text_of_some ho), trivial⟩, h.congr hget⟩
  | removal c =>
    obtain ⟨-, hc⟩ := Registry.outcome_eq_removal_iff.mp ho
    have hpresent : t.get? c.slot.text ≠ none := by
      rw [h.get?_text_of_some hc]
      exact Option.some_ne_none _
    rw [Registry.settle, List.foldl_cons, read_removed]
    exact ⟨⟨expects_removed hpresent, trivial⟩, h.erase hget⟩
  | fault f => exact h.of_forall_level_ne hget (Registry.level_ne_of_mem_journal_fail r f)

/-- The same for any step. -/
theorem after {s : Step} (h : t.IsOf s.before) :
    t.ExpectsAll s.journal ∧ Roster.IsOf (s.journal.foldl read t) s.after := by
  cases ho : s.outcome with
  | none =>
    exact h.of_forall_level_ne (Step.get?_after_of_none ho)
      fun e he => (Step.of_mem_journal_of_none ho e he).1
  | some o =>
    rw [Step.journal_of_outcome ho, Step.after_of_outcome ho]
    exact h.settle ho

/-- What a run enters into the journal is as expected, and with it the roster is of the registry
that the run leaves. -/
theorem run (h : t.IsOf r) (calls : List Call) :
    t.ExpectsAll (r.run calls).journal ∧
      Roster.IsOf ((r.run calls).journal.foldl read t) (r.run calls).registry := by
  induction calls generalizing r t with
  | nil => exact ⟨trivial, h⟩
  | cons call calls ih =>
    obtain ⟨hfirst, hafter⟩ := h.after (s := ⟨r, call⟩)
    obtain ⟨hrest, hend⟩ := ih hafter
    rw [Registry.run, List.foldl_append]
    exact ⟨expectsAll_append.mpr ⟨hfirst, hrest⟩, hend⟩

end Roster.IsOf

/-! ## Faults in the journal -/

/-- Where faults are journalled, the fault in a step has one entry, which warns of it if it is an
error, and says how many there are then. Other than that there is no entry for a fault. -/
structure Step.JournalsFault (s : Step) (journalFaults : Bool) : Prop where
  one : ∀ f, s.fault? = some f → journalFaults = true →
    ∃ e, s.journal.filter Entry.isFault = [e] ∧
      e.level = (if s.before.settings.strict then .warn else .debug) ∧
      e.text? "fault" = some (inspect f) ∧
      e.integer? "faults" = some (s.after.faultCount.toNat : Int)
  none : s.fault? = none ∨ journalFaults = false → s.journal.filter Entry.isFault = []

namespace Registry

theorem journalFaults_after (s : Step) :
    s.after.settings.journalFaults = s.before.settings.journalFaults := by
  cases ho : s.outcome with
  | none =>
    have ha := s.isArbitration_of_none ho
    obtain ⟨r, call⟩ := s
    cases call with
    | nominate _ | remove _ => cases ha
    | clearFaults | setStrict _ | choose _ => rfl
  | some o => rw [Step.after_of_outcome ho, settings_settle]

end Registry

namespace Step

/-- The entries of a step that are about faults. -/
theorem filter_isFault_journal (s : Step) : s.journal.filter Entry.isFault =
    if s.before.settings.journalFaults then
      s.fault?.toList.map fun f => .faulted s.before.settings.strict f s.after.faultCount
    else [] := by
  cases ho : s.outcome with
  | none =>
    rw [fault?_of_none ho, List.filter_eq_nil_iff.mpr]
    · exact (ite_self _).symm
    · intro e he
      simp [(of_mem_journal_of_none ho e he).2]
  | some o =>
    rw [journal_of_outcome ho, fault?_of_outcome ho, after_of_outcome ho]
    cases o with
    | addition _ | replacement _ _ | rejection _ _ | removal _ => exact (ite_self _).symm
    | fault f =>
      rw [Registry.settle, Registry.fail]
      dsimp only
      split_ifs
      · rw [List.filter_singleton]
        cases s.before.settings.strict <;> rfl
      · rfl

theorem journalsFault (s : Step) : s.JournalsFault s.before.settings.journalFaults := by
  constructor
  · intro f hf hj
    refine ⟨.faulted s.before.settings.strict f s.after.faultCount, ?_, rfl, rfl, rfl⟩
    rw [filter_isFault_journal, if_pos hj, hf]
    rfl
  · rintro (hf | hj)
    · rw [filter_isFault_journal, hf]
      exact ite_self _
    · rw [filter_isFault_journal, hj]
      rfl

end Step

namespace Registry

/-- The journal of any run of calls on a fresh registry can be replayed. Each of its traces is as
expected when it is read: additions are of slots that are not on the roster then, all others of
slots that are, and the scores of occupants are those on the roster. What is read in the end are
the nominators and the scores of the candidates, by the texts of their slots. Each call with a
fault has one entry for it if faults are journalled, which is a warning where faults are errors,
and has their number after the call. Otherwise there are no entries for faults. -/
theorem journal_run (settings : Settings) (signals : Option SignalHistory) (calls : List Call) :
    let r := fresh settings signals
    let journal := (r.run calls).journal
    (∀ key index score, (Roster.replay journal).get? key = some (index, score) ↔
      ∃ c ∈ (r.run calls).registry.candidates,
        c.slot.text = key ∧ index = c.nominator.toNat ∧ score = c.score.toInt) ∧
    (∀ before e after, journal = before ++ e :: after → (Roster.replay before).Expects e) ∧
    journal = (r.steps calls).flatMap Step.journal ∧
    ∀ s ∈ r.steps calls, s.JournalsFault settings.journalFaults := by
  intro r journal
  obtain ⟨hexpects, hof⟩ := (Roster.IsOf.empty settings signals).run calls
  refine ⟨?_, ?_, (flatMap_journal_steps r calls).symm, ?_⟩
  · intro key index score
    exact hof.get?_eq_some_iff (isCoherent_run settings signals calls)
  · intro before e after hj
    have hall : Roster.ExpectsAll .empty (before ++ e :: after) := hj ▸ hexpects
    exact (Roster.expectsAll_append.mp hall).2.1
  · have hsettings := forall_mem_steps (r := r)
      (P := fun r => r.settings.journalFaults = settings.journalFaults)
      (by cases signals <;> rfl) (fun s hs => (journalFaults_after s).trans hs) calls
    intro s hs
    rw [← hsettings s hs]
    exact s.journalsFault

/-- An addition, a replacement and a fault that is an error, as they are read. -/
theorem journal_run_atHome :
    let calls : List Call :=
      [.nominate (.atHome 0 10), .nominate (.atHome 0 20), .setStrict true, .remove none]
    let r := fresh {} none
    let journal := (r.run calls).journal
    let c := Candidate.atHome 0 20
    let s : Step := ⟨(r.run (calls.take 3)).registry, .remove none⟩
    (Roster.replay journal).get? c.slot.text = some (0, 20) ∧
    (Roster.replay (journal.take 1)).Expects (.replaced c.slot 20 10) ∧
    ∃ e, s.journal.filter Entry.isFault = [e] ∧ e.level = .warn ∧ e.integer? "faults" = some 1 := by
  intro calls r journal c s
  obtain ⟨hroster, hexpects, -, hfaults⟩ := journal_run {} none calls
  refine ⟨?_, ?_, ?_⟩
  · exact (hroster c.slot.text 0 20).mpr ⟨c, by decide, rfl, rfl, rfl⟩
  · exact hexpects (journal.take 1) (.replaced c.slot 20 10) (journal.drop 2) (by decide)
  · have hs : s ∈ r.steps calls := .tail _ (.tail _ (.tail _ (.head _)))
    obtain ⟨e, he, hlevel, -, hcount⟩ := (hfaults s hs).one .noCandidate rfl rfl
    exact ⟨e, he, hlevel, hcount⟩

end Registry

end WifiArbiter
