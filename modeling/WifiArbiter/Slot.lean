import WifiArbiter.LogicalNetwork
import WifiArbiter.MacAddress
import WifiArbiter.NetworkId

/-!
# Slots

A slot is the place of one access point for one saved network: a logical
network, a hardware address and the identifier of the saved network. A registry
holds at most one candidate in each slot.
-/

namespace WifiArbiter

/-- The place of one access point for one saved network. -/
structure Slot where
  network : LogicalNetwork
  bssid : MacAddress
  networkId : NetworkId
deriving DecidableEq

/-- The text of a slot. -/
def Slot.text (s : Slot) : String :=
  s.network.text ++ "/" ++ s.bssid.text ++ "#" ++ s.networkId.text

end WifiArbiter
