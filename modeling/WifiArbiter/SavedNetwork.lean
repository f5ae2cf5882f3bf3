import WifiArbiter.LogicalNetwork
import WifiArbiter.NetworkId

/-!
# Saved networks

A saved network is one that the device may join. It is trusted and permanent
unless it is marked otherwise.
-/

namespace WifiArbiter

/-- A network that the device may join. -/
structure SavedNetwork where
  id : NetworkId
  ssid : String
  security : SecurityClass
  /-- Suggested by an application and not kept by the user. -/
  ephemeral : Bool := false
  /-- Held to be trusted by the user. -/
  trusted : Bool := true
deriving DecidableEq

namespace SavedNetwork

/-- An open network. -/
def unsecured (id : NetworkId) (ssid : String) : SavedNetwork :=
  { id, ssid, security := .unsecured }

/-- A network with a shared passphrase. -/
def psk (id : NetworkId) (ssid : String) : SavedNetwork :=
  { id, ssid, security := .psk }

/-- A network with a passphrase proved by authentication of equals. -/
def sae (id : NetworkId) (ssid : String) : SavedNetwork :=
  { id, ssid, security := .sae }

/-- An enterprise network. -/
def eap (id : NetworkId) (ssid : String) : SavedNetwork :=
  { id, ssid, security := .eap }

/-- The network as a suggestion. -/
def markEphemeral (n : SavedNetwork) : SavedNetwork :=
  { n with ephemeral := true }

/-- The network without the user's trust. -/
def markUntrusted (n : SavedNetwork) : SavedNetwork :=
  { n with trusted := false }

/-- The logical network that is saved. -/
def logical (n : SavedNetwork) : LogicalNetwork :=
  { ssid := n.ssid, security := n.security }

end SavedNetwork

end WifiArbiter
