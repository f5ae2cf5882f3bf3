import WifiArbiter.LogicalNetwork
import WifiArbiter.MacAddress
import WifiArbiter.NetworkId

/-!
# Faults

A fault is something wrong with what a registry was given. A nomination that
loses against the candidate in its slot is no fault.
-/

namespace WifiArbiter

/-- What can be wrong with a nomination or a removal. -/
inductive Fault where
  /-- A nomination without a saved network. -/
  | noSavedNetwork
  /-- A nomination without a sighting. -/
  | noSighting
  /-- A sighting without a scan result. -/
  | noScanResult
  /-- A hardware address that cannot be read. -/
  | malformedBssid (bssid : String) (cause : AddressError)
  /-- A saved network nominated for an access point of another network. -/
  | networkMismatch (saved scanned : LogicalNetwork)
  /-- A nominator that speaks after a later one has filled the slot. -/
  | nominatorOutOfOrder (bssid : MacAddress) (networkId : NetworkId) (nominator occupant : UInt32)
  /-- A removal without a candidate. -/
  | noCandidate
  /-- A removal of a candidate that is not in its slot. -/
  | staleCandidate (bssid : MacAddress) (networkId : NetworkId)
deriving DecidableEq

namespace Fault

/-- The name of a kind of fault. -/
def name : Fault → String
  | noSavedNetwork => "MissingConfig"
  | noSighting => "MissingScanDetail"
  | noScanResult => "MissingScanResult"
  | malformedBssid .. => "MalformedBssid"
  | networkMismatch .. => "MatchInfoMismatch"
  | nominatorOutOfOrder .. => "NominatorOutOfOrder"
  | noCandidate => "MissingCandidate"
  | staleCandidate .. => "StaleCandidate"

/-- The sentence that reports a fault. -/
def message : Fault → String
  | noSavedNetwork => "No network configuration supplied"
  | noSighting => "No scan detail supplied"
  | noScanResult => "Scan detail carries no scan result"
  | malformedBssid bssid cause => "Malformed BSSID '" ++ bssid ++ "': " ++ cause.message
  | networkMismatch saved scanned =>
    "Match info mismatch: config " ++ saved.text ++ ", scan " ++ scanned.text
  | nominatorOutOfOrder bssid networkId nominator occupant =>
    "Nominator " ++ String.ofList (Text.natural nominator.toNat) ++ " for " ++ bssid.text ++
      " (network " ++ networkId.text ++ ") precedes occupant nominator " ++
      String.ofList (Text.natural occupant.toNat)
  | noCandidate => "No candidate supplied for removal"
  | staleCandidate bssid networkId =>
    "Candidate " ++ bssid.text ++ " (network " ++ networkId.text ++
      ") is not the current occupant"

/-- The sentences of the errors behind a fault, the nearest first. -/
def causes : Fault → List String
  | malformedBssid _ cause => [cause.message]
  | _ => []

end Fault

end WifiArbiter
