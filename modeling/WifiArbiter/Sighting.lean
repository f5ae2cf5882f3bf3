import WifiArbiter.LogicalNetwork
import WifiArbiter.Timestamp

/-!
# Scans

A scan result is one access point as a driver reports it, with its hardware
address and its capabilities still as texts. A sighting is what reaches the
arbiter: the instant of arrival, and a result if the driver sent one.
-/

namespace WifiArbiter

/-- One access point as a driver reports it. -/
structure ScanResult where
  ssid : String
  /-- The hardware address as reported, read when the access point is nominated. -/
  bssid : String
  capabilities : String
  /-- The signal level in dBm. -/
  level : Int32
  /-- The frequency of the main channel in MHz. -/
  frequency : UInt32
  /-- When the access point was last heard, in microseconds from the start of the device. -/
  heardAt : UInt64 := 0
deriving DecidableEq

/-- The logical network that the access point advertises. -/
def ScanResult.logical (r : ScanResult) : LogicalNetwork :=
  { ssid := r.ssid, security := .ofText r.capabilities }

/-- A report from a driver, which may lack its result. -/
structure Sighting where
  result : Option ScanResult
  seen : Timestamp
deriving DecidableEq

end WifiArbiter
