import WifiArbiter.Candidate
import WifiArbiter.Json.Networks

/-!
# Scans in JSON

The forms of scan results, sightings and candidates. A candidate is only written.
-/

namespace WifiArbiter.Json

/-- The fields of a scan result. -/
def scanResultShape : Shape :=
  [{ name := "ssid" }, { name := "bssid" }, { name := "capabilities" }, { name := "level" },
    { name := "frequency" }, { name := "timestamp_us" }]

instance : JsonForm ScanResult where
  write r := scanResultShape.write
    [write r.ssid, write r.bssid, write r.capabilities, write r.level, write r.frequency,
      write r.heardAt]
  read? j := do
    let [ssid, bssid, capabilities, level, frequency, heardAt] ← scanResultShape.values? j | none
    return {
      ssid := ← read? ssid
      bssid := ← read? bssid
      capabilities := ← read? capabilities
      level := ← read? level
      frequency := ← read? frequency
      heardAt := ← read? heardAt }

/-- The fields of a sighting. The result may be lacking. -/
def sightingShape : Shape := [{ name := "scan_result", absence := .null }, { name := "seen" }]

instance : JsonForm Sighting where
  write s := sightingShape.write [write s.result, write s.seen]
  read? j := do
    let [result, seen] ← sightingShape.values? j | none
    return { result := ← read? result, seen := ← read? seen }

/-- The fields of a candidate. -/
def candidateShape : Shape :=
  [{ name := "key" }, { name := "scan_result" }, { name := "seen" }, { name := "config" },
    { name := "nominator_index" }, { name := "nominator_score" }]

/-- The form of a candidate. -/
def ofCandidate (c : Candidate) : Json :=
  candidateShape.write
    [write c.slot, write c.scan, write c.seen, write c.saved, write c.nominator, write c.score]

end WifiArbiter.Json
