import WifiArbiter.Json.Shape
import WifiArbiter.Registry.Settings
import WifiArbiter.Registry.Tally

/-!
# Registries in JSON

The forms of settings and tallies. Settings that are not given keep their
defaults.
-/

namespace WifiArbiter.Json

/-- The fields of settings, each with the default for it. -/
def settingsShape : Shape :=
  let defaults : Settings := {}
  [{ name := "picky", absence := .preset (write defaults.strict) },
    { name := "expected_bssids_per_network", absence := .preset (write defaults.expectedBssids) },
    { name := "log_faults", absence := .preset (write defaults.journalFaults) }]

instance : JsonForm Settings where
  write s := settingsShape.write [write s.strict, write s.expectedBssids, write s.journalFaults]
  read? j := do
    let [strict, expectedBssids, journalFaults] ← settingsShape.values? j | none
    return {
      strict := ← read? strict
      expectedBssids := ← read? expectedBssids
      journalFaults := ← read? journalFaults }

/-- The fields of a tally. -/
def tallyShape : Shape :=
  [{ name := "additions" }, { name := "replacements" }, { name := "policy_rejections" },
    { name := "removals" }, { name := "faults_total" }]

instance : JsonForm Tally where
  write t := tallyShape.write
    [write t.additions, write t.replacements, write t.rejections, write t.removals, write t.faults]
  read? j := do
    let [additions, replacements, rejections, removals, faults] ← tallyShape.values? j | none
    return {
      additions := ← read? additions
      replacements := ← read? replacements
      rejections := ← read? rejections
      removals := ← read? removals
      faults := ← read? faults }

end WifiArbiter.Json
