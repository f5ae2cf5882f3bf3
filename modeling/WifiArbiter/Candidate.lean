import WifiArbiter.SavedNetwork
import WifiArbiter.Sighting
import WifiArbiter.Slot

/-!
# Candidates

A candidate is an access point that a nominator has put forward for a saved
network, with all that is known of both.
-/

namespace WifiArbiter

/-- An access point put forward for a saved network. -/
structure Candidate where
  slot : Slot
  scan : ScanResult
  seen : Timestamp
  saved : SavedNetwork
  /-- The place of the nominator among the nominators. -/
  nominator : UInt32
  /-- The score that the nominator gave. -/
  score : Int32
deriving DecidableEq

end WifiArbiter
