import WifiArbiter.Security.Capability

/-!
# Security classes

The classes by which a saved network and an access point are held to be the same
network. They are ordered by strength. An access point that serves both an older
and a newer kind of station is put into the older class, so that networks saved
for the older kind still match it.
-/

namespace WifiArbiter

/-- How a network is secured, from the weakest class to the strongest. -/
inductive SecurityClass where
  | unsecured
  | owe
  | wep
  | psk
  | sae
  | eap
  | eapSuiteB
deriving DecidableEq

namespace SecurityClass

/-- The place of a class in the order of strength. -/
def strength : SecurityClass → Nat
  | unsecured => 0
  | owe => 1
  | wep => 2
  | psk => 3
  | sae => 4
  | eap => 5
  | eapSuiteB => 6

/-- Classes are ordered by strength. -/
instance : Ord SecurityClass where
  compare a b := compare a.strength b.strength

instance : LE SecurityClass where
  le a b := a.strength ≤ b.strength

instance (a b : SecurityClass) : Decidable (a ≤ b) :=
  inferInstanceAs (Decidable (a.strength ≤ b.strength))

theorem strength_injective {a b : SecurityClass} (h : a.strength = b.strength) : a = b := by
  revert h
  cases a <;> cases b <;> decide

/-- The class as people write it. -/
def text : SecurityClass → String
  | unsecured => "OPEN"
  | owe => "OWE"
  | wep => "WEP"
  | psk => "PSK"
  | sae => "SAE"
  | eap => "EAP"
  | eapSuiteB => "EAP_SUITE_B"

/-- The class as records name it. -/
def name : SecurityClass → String
  | unsecured => "Open"
  | owe => "Owe"
  | wep => "Wep"
  | psk => "Psk"
  | sae => "Sae"
  | eap => "Eap"
  | eapSuiteB => "EapSuiteB"

/-- All classes. -/
def all : List SecurityClass :=
  [unsecured, owe, wep, psk, sae, eap, eapSuiteB]

theorem mem_all (c : SecurityClass) : c ∈ all := by
  cases c <;> decide

/-- The class of an access point with these capabilities. Beside a passphrase the
newer proof of it does not count, and beside an open network the encrypted one
does not. -/
def ofCapabilities (cs : List Capability) : SecurityClass :=
  if .suiteB ∈ cs then eapSuiteB
  else if .eap ∈ cs then eap
  else if .psk ∈ cs then psk
  else if .sae ∈ cs then sae
  else if .wep ∈ cs then wep
  else if .owe ∈ cs ∧ .oweTransition ∉ cs then owe
  else unsecured

/-- The class that a text of capabilities advertises. -/
def ofText (s : String) : SecurityClass :=
  ofCapabilities (Capability.ofText s)

/-- The class depends on which capabilities there are, not on their order or number. -/
theorem ofCapabilities_congr {as bs : List Capability} (h : ∀ c, c ∈ as ↔ c ∈ bs) :
    ofCapabilities as = ofCapabilities bs := by
  simp only [ofCapabilities, h]

end SecurityClass

end WifiArbiter
