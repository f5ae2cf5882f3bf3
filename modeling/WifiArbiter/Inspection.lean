import WifiArbiter.Fault
import WifiArbiter.Registry.Settings
import WifiArbiter.Registry.Tally
import WifiArbiter.Slot
import WifiArbiter.Text.Quoted

/-!
# Inspection

The text of a value with all that it holds, for whoever looks into a running
arbiter: the name of a record and its fields between braces, the name of a
wrapper and its content between parentheses, the members of a sequence between
brackets. Texts are quoted and numbers decimal.
-/

namespace WifiArbiter

/-- A type whose values can be inspected. -/
class Inspect (α : Type) where
  /-- The text of a value with all that it holds. -/
  inspect : α → String

export Inspect (inspect)

namespace Inspection

/-- A field of a record with its text. -/
def field {α : Type} [Inspect α] (name : String) (a : α) : String :=
  name ++ ": " ++ inspect a

/-- The text of a record from the texts of its fields. -/
def record (name : String) (fields : List String) : String :=
  name ++ " \x7b " ++ ", ".intercalate fields ++ " \x7d"

/-- The text of a wrapper from the text of its content. -/
def wrapper (name content : String) : String :=
  name ++ "(" ++ content ++ ")"

end Inspection

open Inspection

instance : Inspect Bool where
  inspect b := if b then "true" else "false"

instance : Inspect Int where
  inspect n := String.ofList (Text.integer n)

instance : Inspect Nat where
  inspect n := String.ofList (Text.natural n)

instance : Inspect UInt8 where
  inspect n := inspect n.toNat

instance : Inspect UInt32 where
  inspect n := inspect n.toNat

instance : Inspect UInt64 where
  inspect n := inspect n.toNat

instance : Inspect Int32 where
  inspect n := inspect n.toInt

instance : Inspect String where
  inspect := Text.quoted

instance {α : Type} [Inspect α] : Inspect (List α) where
  inspect as := "[" ++ ", ".intercalate (as.map inspect) ++ "]"

instance {α : Type} [Inspect α] : Inspect (Option α) where
  inspect
    | none => "None"
    | some a => wrapper "Some" (inspect a)

instance : Inspect MacAddress where
  inspect a := wrapper "MacAddress" (inspect a.octets)

instance : Inspect NetworkId where
  inspect id := wrapper "NetworkId" (inspect id.value)

instance : Inspect SecurityClass where
  inspect := SecurityClass.name

instance : Inspect LogicalNetwork where
  inspect n := record "MatchInfo" [field "ssid" n.ssid, field "security" n.security]

instance : Inspect Slot where
  inspect s := record "CandidateKey"
    [field "match_info" s.network, field "bssid" s.bssid, field "network_id" s.networkId]

instance : Inspect AddressError where
  inspect
    | .empty => "Empty"
    | .wrongOctetCount count => record "WrongOctetCount" [field "count" count]
    | .invalidOctet octet => record "InvalidOctet" [field "octet" octet]

instance : Inspect Fault where
  inspect f := match f with
    | .noSavedNetwork | .noSighting | .noScanResult | .noCandidate => f.name
    | .malformedBssid bssid cause => record f.name [field "bssid" bssid, field "source" cause]
    | .networkMismatch saved scanned => record f.name [field "config" saved, field "scan" scanned]
    | .nominatorOutOfOrder bssid networkId nominator occupant =>
      record f.name [field "bssid" bssid, field "network_id" networkId, field "index" nominator,
        field "occupant_index" occupant]
    | .staleCandidate bssid networkId =>
      record f.name [field "bssid" bssid, field "network_id" networkId]

instance : Inspect Settings where
  inspect s := record "RegistryConfig"
    [field "picky" s.strict, field "expected_bssids_per_network" s.expectedBssids,
      field "log_faults" s.journalFaults]

instance : Inspect Tally where
  inspect t := record "RegistryStats"
    [field "additions" t.additions, field "replacements" t.replacements,
      field "policy_rejections" t.rejections, field "removals" t.removals,
      field "faults_total" t.faults]

end WifiArbiter
