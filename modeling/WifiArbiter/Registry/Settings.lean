import WifiArbiter.SelectionError

/-!
# Settings of a registry
-/

namespace WifiArbiter

/-- How a registry goes about its work. -/
structure Settings where
  /-- A fault is an error, and not only recorded. -/
  strict : Bool := false
  /-- How many access points to expect for each saved network. -/
  expectedBssids : UInt64 := 2
  /-- A fault is entered into the journal. -/
  journalFaults : Bool := true
deriving DecidableEq

namespace Settings

/-- Every fault is an error. -/
def failFast : Settings := { strict := true }

/-- Every fault is an error, and none is entered into the journal. -/
def silent : Settings := { strict := true, journalFaults := false }

/-- A registry expects at least one access point for each saved network. -/
def validate (s : Settings) : Except SelectionError Unit :=
  if s.expectedBssids = 0 then
    .error (.invalidSettings "expected_bssids_per_network must be at least 1")
  else .ok ()

end Settings

end WifiArbiter
