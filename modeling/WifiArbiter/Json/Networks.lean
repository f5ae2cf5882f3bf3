import WifiArbiter.Json.Shape
import WifiArbiter.SavedNetwork
import WifiArbiter.Slot
import WifiArbiter.Timestamp

/-!
# Networks in JSON

The forms of addresses, identifiers, instants, security classes, networks and
slots.
-/

namespace WifiArbiter.Json

/-- A hardware address is the array of its six octets. -/
instance : JsonForm MacAddress where
  write a := arr (a.octets.map write)
  read?
    | arr items => do
      let octets : List UInt8 ← items? items
      if h : octets.length = 6 then some ⟨octets, h⟩ else none
    | _ => none

/-- An identifier is its number. -/
instance : JsonForm NetworkId where
  write id := write id.value
  read? j := (read? j).map NetworkId.mk

/-- An instant is its number. -/
instance : JsonForm Timestamp where
  write t := write t.millis
  read? j := (read? j).map Timestamp.mk

/-- A security class is its name. -/
instance : JsonForm SecurityClass where
  write c := str c.name
  read? := named? SecurityClass.all SecurityClass.name

/-- The fields of a logical network. -/
def logicalNetworkShape : Shape := [{ name := "ssid" }, { name := "security" }]

instance : JsonForm LogicalNetwork where
  write n := logicalNetworkShape.write [write n.ssid, write n.security]
  read? j := do
    let [ssid, security] ← logicalNetworkShape.values? j | none
    return { ssid := ← read? ssid, security := ← read? security }

/-- The fields of a slot. -/
def slotShape : Shape := [{ name := "match_info" }, { name := "bssid" }, { name := "network_id" }]

instance : JsonForm Slot where
  write s := slotShape.write [write s.network, write s.bssid, write s.networkId]
  read? j := do
    let [network, bssid, networkId] ← slotShape.values? j | none
    return { network := ← read? network, bssid := ← read? bssid, networkId := ← read? networkId }

/-- The fields of a saved network. -/
def savedNetworkShape : Shape :=
  [{ name := "network_id" }, { name := "ssid" }, { name := "security" }, { name := "ephemeral" },
    { name := "trusted" }]

instance : JsonForm SavedNetwork where
  write n := savedNetworkShape.write
    [write n.id, write n.ssid, write n.security, write n.ephemeral, write n.trusted]
  read? j := do
    let [id, ssid, security, ephemeral, trusted] ← savedNetworkShape.values? j | none
    return {
      id := ← read? id
      ssid := ← read? ssid
      security := ← read? security
      ephemeral := ← read? ephemeral
      trusted := ← read? trusted }

end WifiArbiter.Json
