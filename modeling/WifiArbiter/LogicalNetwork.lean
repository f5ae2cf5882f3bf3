import WifiArbiter.Security.Class

/-!
# Logical networks

A logical network is a name together with a security class. A saved network and
an access point each have one, found independently; they are the same network
when the two are equal.
-/

namespace WifiArbiter

/-- A network as both sides know it: its name and its security class. -/
structure LogicalNetwork where
  ssid : String
  security : SecurityClass
deriving DecidableEq

namespace LogicalNetwork

/-- The text of a logical network: the name between quotes, as it is, and the class. -/
def text (n : LogicalNetwork) : String :=
  "\"" ++ n.ssid ++ "\"/" ++ n.security.text

end LogicalNetwork

end WifiArbiter
