import WifiArbiter.Registry.Group
import WifiArbiter.Registry.Journal
import WifiArbiter.SignalHistory
import WifiArbiter.Table

/-!
# Registries

A registry holds the candidates of one round of network selection, at most one
in each slot. It keeps a tally of what the calls on it came to, and the last of
the faults since they were cleared.
-/

namespace WifiArbiter

/-- The candidates of one round of network selection. -/
structure Registry where
  occupants : Table Slot Candidate
  settings : Settings
  signals : Option SignalHistory
  /-- The last fault since the faults were cleared. -/
  lastFault : Option Fault
  /-- How many faults there were since then. -/
  faultCount : UInt64
  tally : Tally

/-- What a call on a registry leaves and gives back. -/
structure Effect (α : Type) where
  registry : Registry
  answer : α
  journal : List Entry

namespace Registry

/-- A registry without candidates. -/
def empty (settings : Settings) : Registry :=
  { occupants := .empty
    settings
    signals := none
    lastFault := none
    faultCount := 0
    tally := {} }

instance : Inhabited Registry := ⟨empty {}⟩

/-- A registry without candidates, if its settings are of use. -/
def ofSettings (settings : Settings) : Except SelectionError Registry :=
  match settings.validate with
  | .error e => .error e
  | .ok () => .ok (empty settings)

/-- The registry with a history of signals. -/
def withSignals (r : Registry) (history : SignalHistory) : Registry :=
  { r with signals := some history }

/-! ## Looking -/

/-- How many candidates there are. -/
def size (r : Registry) : Nat :=
  r.occupants.size

/-- The candidate in a slot. -/
def get? (r : Registry) (slot : Slot) : Option Candidate :=
  r.occupants.get? slot

/-- All candidates, in no particular order. -/
def candidates (r : Registry) : List Candidate :=
  r.occupants.values

/-- The candidates by saved network, in no particular order. -/
def groups (r : Registry) : Except Breakdown (List Group) :=
  Group.collect r.settings.expectedBssids r.candidates

/-- What is known of the past signals of a candidate at an event. -/
def statistics (r : Registry) (c : Candidate) (event : ConnectionEvent) : Option SignalSummary :=
  r.signals.bind fun history => history.summary c.slot.network.ssid c.slot.bssid event

/-- What a registry holds, with the number of its candidates, and whether it has a history
of signals. -/
instance : Inspect Registry where
  inspect r := Inspection.record "WifiCandidates"
    [Inspection.field "candidates" r.size, Inspection.field "config" r.settings,
      Inspection.field "score_card" r.signals.isSome, Inspection.field "last_fault" r.lastFault,
      Inspection.field "fault_count" r.faultCount, Inspection.field "stats" r.tally]

/-! ## Faults -/

/-- Forgets the faults so far. The tally stays. -/
def clearFaults (r : Registry) : Registry :=
  { r with lastFault := none, faultCount := 0 }

/-- Decides whether a fault is an error. -/
def setStrict (r : Registry) (strict : Bool) : Registry :=
  { r with settings := { r.settings with strict } }

/-- Records a fault. The answer is an error where faults are errors, and otherwise
that nothing was done. -/
def fail (r : Registry) (f : Fault) : Effect (Except SelectionError Bool) :=
  { registry :=
      { r with lastFault := some f, faultCount := r.faultCount + 1, tally := r.tally.fault }
    answer := if r.settings.strict then .error (.fault f) else .ok false
    journal :=
      if r.settings.journalFaults then [.faulted r.settings.strict f (r.faultCount + 1)] else [] }

theorem length_candidates (r : Registry) : r.candidates.length = r.size :=
  List.length_map _

@[simp] theorem get?_empty (settings : Settings) (slot : Slot) :
    (empty settings).get? slot = none := rfl

@[simp] theorem get?_clearFaults (r : Registry) (slot : Slot) :
    r.clearFaults.get? slot = r.get? slot := rfl

@[simp] theorem get?_setStrict (r : Registry) (strict : Bool) (slot : Slot) :
    (r.setStrict strict).get? slot = r.get? slot := rfl

/-- A fault leaves the candidates where they are. -/
@[simp] theorem get?_fail (r : Registry) (f : Fault) (slot : Slot) :
    (r.fail f).registry.get? slot = r.get? slot := rfl

end Registry

end WifiArbiter
