import WifiArbiter.Candidate
import WifiArbiter.Fault

/-!
# Nominations

A nomination puts an access point forward for a saved network. Either may be
missing, the hardware address may be unreadable, and the two may be of different
networks; each of these is a fault, and the first of them in this order counts:
no saved network, no sighting, no scan result, a malformed address, a mismatch.
-/

namespace WifiArbiter

/-- An access point put forward for a saved network, not yet looked into. -/
structure Nomination where
  sighting : Option Sighting
  saved : Option SavedNetwork
  /-- The place of the nominator among the nominators. -/
  nominator : UInt32
  /-- The score that the nominator gives. -/
  score : Int32
deriving DecidableEq

/-- The candidate that a nomination puts forward, or the fault in it. -/
def Nomination.candidate (n : Nomination) : Except Fault Candidate :=
  match n.saved, n.sighting with
  | none, _ => .error .noSavedNetwork
  | some _, none => .error .noSighting
  | some saved, some sighting =>
    match sighting.result with
    | none => .error .noScanResult
    | some scan =>
      match MacAddress.parse scan.bssid with
      | .error cause => .error (.malformedBssid scan.bssid cause)
      | .ok bssid =>
        if saved.logical = scan.logical then
          .ok
            { slot := { network := saved.logical, bssid, networkId := saved.id }
              scan
              seen := sighting.seen
              saved
              nominator := n.nominator
              score := n.score }
        else .error (.networkMismatch saved.logical scan.logical)

end WifiArbiter
