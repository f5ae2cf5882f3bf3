import WifiArbiter.Json.Registries
import WifiArbiter.Json.Scans
import WifiArbiter.Json.Scores
import WifiArbiter.Registry.Call
import WifiArbiter.Proofs.History
import WifiArbiter.Proofs.Coherence
import WifiArbiter.Proofs.Occupancy
import WifiArbiter.Proofs.Balance
import WifiArbiter.Proofs.Strictness
import WifiArbiter.Proofs.Choice
import WifiArbiter.Proofs.Ascent
import WifiArbiter.Proofs.Erasure
import WifiArbiter.Proofs.Replay
import WifiArbiter.Proofs.Reordering
import WifiArbiter.Proofs.Locality
import WifiArbiter.Proofs.Redelivery
import WifiArbiter.Proofs.Shuffle
import WifiArbiter.Proofs.LiveChoice
import WifiArbiter.Proofs.Draining
import WifiArbiter.Proofs.Noninterference
import WifiArbiter.Proofs.Cohesion
import WifiArbiter.Proofs.Advertisement
import WifiArbiter.Proofs.Spelling
import WifiArbiter.Proofs.RoundTrip
import WifiArbiter.Proofs.Admission
import WifiArbiter.Proofs.Snapshot
import WifiArbiter.Proofs.Partition
import WifiArbiter.Proofs.Elements
import WifiArbiter.Proofs.Downgrade
import WifiArbiter.Proofs.Diagnosis
import WifiArbiter.Proofs.Preference
import WifiArbiter.Proofs.Records
