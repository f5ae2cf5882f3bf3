import WifiArbiter.Registry.Arbitration
import WifiArbiter.Registry.Choice

/-!
# Calls

The calls on a registry as values, and what a sequence of them comes to. This is
the view in which the histories of registries are compared.

Results:
* `Registry.run_append`: calls in two parts are the first and then the second.
-/

namespace WifiArbiter

/-- A call on a registry. -/
inductive Call where
  | nominate (n : Nomination)
  | remove (c : Option Candidate)
  | clearFaults
  | setStrict (strict : Bool)
  | choose (s : Scorer)

/-- What a call gives back. -/
inductive Reply where
  /-- Whether a nomination or a removal was done, or why it was refused. -/
  | outcome (answer : Except SelectionError Bool)
  /-- The judgment that was chosen, or why there is none. -/
  | choice (answer : Except Breakdown Judgment)
  /-- Nothing. -/
  | done

namespace Effect

/-- The effect with its answer as a reply. -/
def map {α β : Type} (f : α → β) (e : Effect α) : Effect β :=
  { registry := e.registry, answer := f e.answer, journal := e.journal }

end Effect

namespace Registry

/-- Performs one call. -/
def perform (r : Registry) : Call → Effect Reply
  | .nominate n => (r.nominate n).map .outcome
  | .remove c => (r.remove c).map .outcome
  | .clearFaults => { registry := r.clearFaults, answer := .done, journal := [] }
  | .setStrict strict => { registry := r.setStrict strict, answer := .done, journal := [] }
  | .choose s => (r.choose s).map .choice

/-- Performs calls one after the other. The answers and the journal are those of all of them. -/
def run (r : Registry) : List Call → Effect (List Reply)
  | [] => { registry := r, answer := [], journal := [] }
  | call :: calls =>
    let first := r.perform call
    let rest := first.registry.run calls
    { registry := rest.registry
      answer := first.answer :: rest.answer
      journal := first.journal ++ rest.journal }

/-- Calls in two parts are the first part and then the second. -/
theorem run_append (r : Registry) (before after : List Call) :
    r.run (before ++ after) =
      { registry := ((r.run before).registry.run after).registry
        answer := (r.run before).answer ++ ((r.run before).registry.run after).answer
        journal := (r.run before).journal ++ ((r.run before).registry.run after).journal } := by
  induction before generalizing r with
  | nil => rfl
  | cons call calls ih => simp [run, ih]

end Registry

end WifiArbiter
