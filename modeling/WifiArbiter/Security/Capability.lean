import WifiArbiter.Text.Pieces

/-!
# Advertised capabilities

An access point advertises what it can do in a text such as
`[WPA2-PSK-CCMP][RSN-PSK+SAE-CCMP][ESS]`: elements in brackets, each a list of
tokens between hyphens and plus signs. Seven capabilities decide how the network
is secured. Two of them are whole elements (`WEP` and `OWE_TRANSITION`); the
other five are names of a key management, which a token may precede with `FT/`
and follow with `/` and the name of a hash. Letter case does not matter in ASCII.

Results:
* `ofChars_append_cons`: a bracket cuts a text into two texts, and the
  capabilities of the whole are those of the first and then those of the second.
-/

namespace WifiArbiter

/-- What an access point may advertise about the protection of its network. -/
inductive Capability where
  /-- A passphrase shared by all stations. -/
  | psk
  /-- A passphrase proved by simultaneous authentication of equals. -/
  | sae
  /-- Enterprise authentication. -/
  | eap
  /-- Enterprise authentication with the 192-bit suite. -/
  | suiteB
  /-- Opportunistic encryption without authentication. -/
  | owe
  /-- The retired wired-equivalent protection. -/
  | wep
  /-- An open network beside which an encrypted one is run. -/
  | oweTransition
deriving DecidableEq

namespace Capability

/-- A text with its ASCII letters in upper case. -/
def upper (cs : List Char) : List Char :=
  cs.map Char.toUpper

/-- The brackets around elements. -/
def isBracket (c : Char) : Bool :=
  c == '[' || c == ']'

/-- The signs between the tokens of an element. -/
def isJoint (c : Char) : Bool :=
  c == '-' || c == '+'

/-- A token without one mark of fast transition at its start. -/
def withoutFastTransition : List Char → List Char
  | 'F' :: 'T' :: '/' :: rest => rest
  | cs => cs

/-- The name of a key management in a token: what remains of it in upper case
without the mark of fast transition, up to the first slash. -/
def keyManagementName (token : List Char) : List Char :=
  (withoutFastTransition (upper token)).takeWhile (· ≠ '/')

/-- The key management of a name. -/
def ofName? (name : List Char) : Option Capability :=
  if name = "PSK".toList then some psk
  else if name = "SAE".toList then some sae
  else if name = "EAP".toList then some eap
  else if name = "EAP_SUITE_B_192".toList then some suiteB
  else if name = "OWE".toList then some owe
  else none

/-- The key management that a token names. -/
def ofToken? (token : List Char) : Option Capability :=
  ofName? (keyManagementName token)

/-- The capabilities in one element. -/
def ofElement (element : List Char) : List Capability :=
  if upper element = "WEP".toList then [wep]
  else if upper element = "OWE_TRANSITION".toList then [oweTransition]
  else (Text.pieces isJoint element).filterMap ofToken?

/-- The elements of a text: what stands between brackets, nested or not. -/
def elements (cs : List Char) : List (List Char) :=
  Text.pieces isBracket cs

/-- The capabilities in a text, from first to last. -/
def ofChars (cs : List Char) : List Capability :=
  (elements cs).flatMap ofElement

/-- The capabilities that a text advertises. -/
def ofText (s : String) : List Capability :=
  ofChars s.toList

/-- A bracket cuts a text into two, each with capabilities of its own. -/
theorem ofChars_append_cons {c : Char} (hc : isBracket c = true) (as bs : List Char) :
    ofChars (as ++ c :: bs) = ofChars as ++ ofChars bs := by
  simp [ofChars, elements, Text.pieces_append_cons hc]

end Capability

end WifiArbiter
