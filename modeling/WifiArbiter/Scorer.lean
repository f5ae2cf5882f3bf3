import WifiArbiter.Inspection
import WifiArbiter.Judgment
import WifiArbiter.Registry.Group

/-!
# Scorers

A scorer judges the candidates for one saved network, or abstains.
-/

namespace WifiArbiter

/-- A judge of groups of candidates. -/
structure Scorer where
  identifier : String
  /-- Whether the choice is to go before one that the user has made. -/
  overridesUser : Bool
  judge : Group → Option Judgment

/-- What a scorer holds, but for its judgment. -/
instance : Inspect Scorer where
  inspect s := Inspection.record "ScorerFn"
    [Inspection.field "identifier" s.identifier,
      Inspection.field "user_connect_choice_override" s.overridesUser, ".."]

end WifiArbiter
