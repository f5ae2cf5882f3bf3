/-!
# Instants

Instants are counted in milliseconds from the start of 1970.
-/

namespace WifiArbiter

/-- An instant, in milliseconds from the start of 1970. -/
structure Timestamp where
  millis : UInt64
deriving DecidableEq

/-- Instants are ordered by time. -/
instance : Ord Timestamp where
  compare a b := compare a.millis b.millis

end WifiArbiter
