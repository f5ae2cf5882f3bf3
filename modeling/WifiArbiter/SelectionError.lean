import WifiArbiter.Decimal.Positional
import WifiArbiter.Fault

/-!
# Errors

What the arbiter refuses to do: a call with a fault, while faults are errors; a
judgment with a score that is none; settings that it cannot work with.
-/

namespace WifiArbiter

/-- Why a call was refused. -/
inductive SelectionError where
  /-- The call had a fault, and faults are errors. -/
  | fault (fault : Fault)
  /-- The value and its error are no score. -/
  | invalidScore (value err : Float)
  /-- The settings are of no use. -/
  | invalidSettings (reason : String)
deriving DecidableEq

namespace SelectionError

/-- The sentence that reports an error. -/
def message : SelectionError → String
  | fault f => "Candidate fault: " ++ f.message
  | invalidScore value err =>
    "Invalid score: value " ++ Decimal.text value ++ ", err " ++ Decimal.text err
  | invalidSettings reason => "Configuration error: " ++ reason

/-- The sentences of the errors behind an error, the nearest first. -/
def causes : SelectionError → List String
  | fault f => f.message :: f.causes
  | _ => []

/-- The fault behind an error. -/
def fault? : SelectionError → Option Fault
  | fault f => some f
  | _ => none

end SelectionError

end WifiArbiter
