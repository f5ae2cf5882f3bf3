import Mathlib.Data.List.DropRight
import WifiArbiter.Proofs.Outcome

/-!
# Histories

The history of a registry is the list of the steps since it was built: each call
together with the registry as it stood before it. What the call left and how it
was answered are functions of the step.

Results:
* `Registry.map_call_steps`, `map_reply_steps`, `flatMap_journal_steps`: the history holds
  the calls, the answers and the journal of a run, in order.
* `since_concat`: what is found in a history since the last step of some kind, step by step.
* `Registry.run_induction`: what holds of a registry and its empty history, and is
  kept by each step, holds of every run.
-/

namespace WifiArbiter

/-! ## Calls by kind -/

/-- A call that puts an access point forward. -/
def Call.isNomination : Call → Bool
  | .nominate _ => true
  | _ => false

/-- A call that takes a candidate away. -/
def Call.isRemoval : Call → Bool
  | .remove _ => true
  | _ => false

/-- A call that forgets the faults. -/
def Call.isClearing : Call → Bool
  | .clearFaults => true
  | _ => false

/-- A call that bears on the candidates or the faults. -/
def Call.isMaterial : Call → Bool
  | .nominate _ | .remove _ | .clearFaults => true
  | .setStrict _ | .choose _ => false

/-! ## Steps -/

/-- A call on a registry as it stood. -/
structure Step where
  before : Registry
  call : Call

namespace Step

/-- The registry that the call left. -/
def after (s : Step) : Registry :=
  (s.before.perform s.call).registry

/-- What the call gave back. -/
def reply (s : Step) : Reply :=
  (s.before.perform s.call).answer

/-- What the call entered into the journal. -/
def journal (s : Step) : List Entry :=
  (s.before.perform s.call).journal

/-- What the call came to, if it was a nomination or a removal. -/
def outcome (s : Step) : Option Outcome :=
  s.before.outcome s.call

/-- The fault in the call, if there was one. -/
def fault? (s : Step) : Option Fault :=
  s.before.fault? s.call

/-- Whether the call was answered by saying that something was done. -/
def isDone (s : Step) : Bool :=
  match s.reply with
  | .outcome (.ok done) => done
  | _ => false

/-! ## What a step does -/

variable {s : Step} {o : Outcome}

theorem after_of_outcome (h : s.outcome = some o) :
    s.after = (s.before.settle o).registry := by
  rw [after, Registry.perform_eq_settle h]
  rfl

theorem reply_of_outcome (h : s.outcome = some o) :
    s.reply = .outcome (o.answer s.before.settings.strict) := by
  rw [reply, Registry.perform_eq_settle h, ← Registry.answer_settle]
  rfl

theorem journal_of_outcome (h : s.outcome = some o) :
    s.journal = (s.before.settle o).journal := by
  rw [journal, Registry.perform_eq_settle h]
  rfl

theorem isDone_of_outcome (h : s.outcome = some o) :
    s.isDone = o.isDone := by
  rw [isDone, reply_of_outcome h]
  cases o with
  | addition _ | replacement _ _ | rejection _ _ | removal _ => rfl
  | fault f => rw [Outcome.answer]; split_ifs <;> rfl

theorem get?_after_of_outcome (h : s.outcome = some o) (slot : Slot) :
    s.after.get? slot = o.occupant slot (s.before.get? slot) := by
  rw [after_of_outcome h, Registry.get?_settle]

theorem get?_after_of_none (h : s.outcome = none) (slot : Slot) :
    s.after.get? slot = s.before.get? slot := by
  rw [Registry.get?, after, (Registry.perform_of_outcome_eq_none h).1, Registry.get?]

theorem fault?_of_outcome (h : s.outcome = some o) : s.fault? = o.fault? := by
  rw [outcome] at h
  rw [fault?, Registry.fault?, h]
  rfl

theorem isArbitration_of_outcome (h : s.outcome = some o) : s.call.isArbitration = true := by
  rw [← s.before.outcome_isSome s.call, ← outcome, h]
  rfl

theorem isClearing_of_outcome (h : s.outcome = some o) : s.call.isClearing = false := by
  have ha := isArbitration_of_outcome h
  obtain ⟨r, call⟩ := s
  cases call with
  | nominate _ | remove _ => rfl
  | clearFaults | setStrict _ | choose _ => cases ha

theorem isArbitration_of_none (h : s.outcome = none) : s.call.isArbitration = false := by
  rw [← s.before.outcome_isSome s.call, ← outcome, h]
  rfl

theorem isDone_of_none (h : s.outcome = none) : s.isDone = false := by
  have ha := isArbitration_of_none h
  obtain ⟨r, call⟩ := s
  cases call with
  | nominate _ | remove _ => cases ha
  | clearFaults | setStrict _ | choose _ => rfl

theorem fault?_of_none (h : s.outcome = none) : s.fault? = none := by
  rw [outcome] at h
  rw [fault?, Registry.fault?, h]
  rfl

theorem after_of_isClearing (h : s.call.isClearing = true) :
    s.after = s.before.clearFaults := by
  obtain ⟨r, call⟩ := s
  cases call with
  | clearFaults => rfl
  | nominate _ | remove _ | setStrict _ | choose _ => cases h

/-- A call without an outcome leaves the faults, unless it is to forget them. -/
theorem faults_of_none (h : s.outcome = none) (hc : s.call.isClearing = false) :
    s.after.lastFault = s.before.lastFault ∧ s.after.faultCount = s.before.faultCount := by
  have ha := isArbitration_of_none h
  obtain ⟨r, call⟩ := s
  cases call with
  | nominate _ | remove _ => cases ha
  | clearFaults => cases hc
  | setStrict _ | choose _ => exact ⟨rfl, rfl⟩

/-- No call has a bearing on how many access points are expected. -/
theorem expectedBssids_after (s : Step) :
    s.after.settings.expectedBssids = s.before.settings.expectedBssids := by
  cases h : s.outcome with
  | some o => rw [after_of_outcome h, Registry.settings_settle]
  | none =>
    have ha := isArbitration_of_none h
    obtain ⟨r, call⟩ := s
    cases call with
    | nominate _ | remove _ => cases ha
    | clearFaults | setStrict _ | choose _ => rfl

end Step

/-- What is found in the steps of a history since the last one of some kind. -/
def since {α : Type} (last : Step → Bool) (find : Step → Option α) (history : List Step) : List α :=
  (history.rtakeWhile fun s => !last s).filterMap find

theorem since_concat {α : Type} (last : Step → Bool) (find : Step → Option α) (past : List Step)
    (s : Step) :
    since last find (past ++ [s]) =
      if last s then [] else since last find past ++ (find s).toList := by
  rw [since, List.rtakeWhile_concat]
  cases last s with
  | true => rfl
  | false =>
    rw [Bool.not_false, if_pos rfl, if_neg Bool.false_ne_true, List.filterMap_append, ← since]
    cases h : find s <;> simp [h]

namespace Registry

/-- A registry as it is built, with a history of signals or without. -/
def fresh (settings : Settings) : Option SignalHistory → Registry
  | none => empty settings
  | some history => (empty settings).withSignals history

/-- The steps of a run of calls. -/
def steps (r : Registry) : List Call → List Step
  | [] => []
  | call :: calls => ⟨r, call⟩ :: (r.perform call).registry.steps calls

/-! ## Fresh registries -/

@[simp] theorem occupants_fresh (settings : Settings) (signals : Option SignalHistory) :
    (fresh settings signals).occupants = .empty := by
  cases signals <;> rfl

@[simp] theorem get?_fresh (settings : Settings) (signals : Option SignalHistory) (slot : Slot) :
    (fresh settings signals).get? slot = none := by
  cases signals <;> rfl

@[simp] theorem tally_fresh (settings : Settings) (signals : Option SignalHistory) :
    (fresh settings signals).tally = {} := by
  cases signals <;> rfl

@[simp] theorem lastFault_fresh (settings : Settings) (signals : Option SignalHistory) :
    (fresh settings signals).lastFault = none := by
  cases signals <;> rfl

@[simp] theorem faultCount_fresh (settings : Settings) (signals : Option SignalHistory) :
    (fresh settings signals).faultCount = 0 := by
  cases signals <;> rfl

@[simp] theorem settings_fresh (settings : Settings) (signals : Option SignalHistory) :
    (fresh settings signals).settings = settings := by
  cases signals <;> rfl

/-! ## Steps of a run -/

theorem map_call_steps (r : Registry) (calls : List Call) :
    (r.steps calls).map Step.call = calls := by
  induction calls generalizing r with
  | nil => rfl
  | cons call calls ih => rw [steps, List.map_cons, ih]

theorem map_reply_steps (r : Registry) (calls : List Call) :
    (r.steps calls).map Step.reply = (r.run calls).answer := by
  induction calls generalizing r with
  | nil => rfl
  | cons call calls ih => rw [steps, List.map_cons, ih]; rfl

theorem flatMap_journal_steps (r : Registry) (calls : List Call) :
    (r.steps calls).flatMap Step.journal = (r.run calls).journal := by
  induction calls generalizing r with
  | nil => rfl
  | cons call calls ih => rw [steps, List.flatMap_cons, ih]; rfl

theorem length_steps (r : Registry) (calls : List Call) :
    (r.steps calls).length = calls.length := by
  rw [← List.length_map (f := Step.call), map_call_steps]

theorem steps_append (r : Registry) (before after : List Call) :
    r.steps (before ++ after) = r.steps before ++ (r.run before).registry.steps after := by
  induction before generalizing r with
  | nil => rfl
  | cons call calls ih => rw [List.cons_append, steps, ih]; rfl

/-- The calls of a history are those of the run. -/
theorem call_mem_of_mem_steps {r : Registry} {calls : List Call} {s : Step}
    (h : s ∈ r.steps calls) : s.call ∈ calls := by
  rw [← r.map_call_steps calls]
  exact List.mem_map_of_mem h

/-- Each step finds what the calls before it have left. -/
theorem getElem?_steps (r : Registry) (calls : List Call) (i : ℕ) :
    (r.steps calls)[i]? =
      calls[i]?.map fun call => ⟨(r.run (calls.take i)).registry, call⟩ := by
  induction calls generalizing r i with
  | nil => rfl
  | cons call calls ih =>
    cases i with
    | zero => rfl
    | succ i => exact ih (r.perform call).registry i

/-- What holds at the start and is kept by each step holds before each step of a run. -/
theorem forall_mem_steps {P : Registry → Prop} {r : Registry} (start : P r)
    (step : ∀ s : Step, P s.before → P s.after) (calls : List Call) :
    ∀ s ∈ r.steps calls, P s.before := by
  induction calls generalizing r with
  | nil => exact fun _ h => absurd h List.not_mem_nil
  | cons call calls ih =>
    exact List.forall_mem_cons.mpr ⟨start, ih (step ⟨r, call⟩ start)⟩

/-- What holds at the start and is kept by each step, with the history so far in view, holds
after every run. -/
theorem run_induction {P : List Step → Registry → Prop} {r : Registry} (start : P [] r)
    (step : ∀ (past : List Step) (s : Step), P past s.before → P (past ++ [s]) s.after)
    (calls : List Call) : P (r.steps calls) (r.run calls).registry := by
  have run : ∀ (calls : List Call) (past : List Step) (r : Registry), P past r →
      P (past ++ r.steps calls) (r.run calls).registry := by
    intro calls
    induction calls with
    | nil =>
      intro past r h
      simpa [steps, Registry.run] using h
    | cons call calls ih =>
      intro past r h
      have next := ih (past ++ [⟨r, call⟩]) _ (step past ⟨r, call⟩ h)
      rwa [List.append_assoc] at next
  exact run calls [] r start

theorem expectedBssids_run (settings : Settings) (signals : Option SignalHistory)
    (calls : List Call) :
    ((fresh settings signals).run calls).registry.settings.expectedBssids =
      settings.expectedBssids :=
  run_induction (P := fun _ r => r.settings.expectedBssids = settings.expectedBssids)
    (by rw [settings_fresh]) (fun _ s h => s.expectedBssids_after.trans h) calls

end Registry

end WifiArbiter
