import WifiArbiter.Hex
import WifiArbiter.Text.Blank
import WifiArbiter.Text.Numeral
import WifiArbiter.Text.Pieces

/-!
# Hardware addresses

A hardware address is six octets. Its text is the octets in lower-case
hexadecimal, joined by colons; the reader also takes upper-case digits, hyphens
in place of colons, and a blank margin.

A text that is no address is diagnosed in a fixed order: nothing in it, another
number of octets than six, and then the first octet that is not two hexadecimal
digits.

Results:
* `MacAddress.length_octetPieces`: there is one piece more than there are
  separators.
* `MacAddress.length_readOctets`: reading gives one octet for each piece.
-/

namespace WifiArbiter

/-- A 48-bit hardware address, as the octets from first to last. -/
structure MacAddress where
  octets : List UInt8
  length_octets : octets.length = 6
deriving DecidableEq

/-- Why a text is no hardware address. -/
inductive AddressError where
  /-- There is nothing but blank space. -/
  | empty
  /-- The separators cut the text into `count` pieces instead of six. -/
  | wrongOctetCount (count : Nat)
  /-- This piece, the first such, is not two hexadecimal digits. -/
  | invalidOctet (octet : String)
deriving DecidableEq

namespace AddressError

/-- The sentence that reports an error. -/
def message : AddressError → String
  | empty => "Empty hardware address"
  | wrongOctetCount count =>
    "Hardware address must have 6 octets, got " ++ String.ofList (Text.natural count)
  | invalidOctet octet => "Invalid hardware address octet '" ++ octet ++ "'"

end AddressError

namespace MacAddress

/-! ## Octets -/

/-- The octet at a position. -/
def octet (a : MacAddress) (i : Fin 6) : UInt8 :=
  a.octets.get (i.cast a.length_octets.symm)

/-- Addresses are ordered by their octets, the first counting most. -/
instance : Ord MacAddress where
  compare a b := compare a.octets b.octets

/-- The address of all stations. -/
def broadcast : MacAddress := ⟨List.replicate 6 0xFF, rfl⟩

/-- The address that drivers report where they know none. -/
def zero : MacAddress := ⟨List.replicate 6 0, rfl⟩

/-- The lowest bit of the first octet marks a group of stations. -/
def isMulticast (a : MacAddress) : Bool :=
  a.octet 0 &&& 0x01 != 0

/-- The second bit of the first octet marks an address that no maker has assigned. -/
def isLocal (a : MacAddress) : Bool :=
  a.octet 0 &&& 0x02 != 0

/-! ## Writing -/

/-- The written form of an address. -/
def chars (a : MacAddress) : List Char :=
  [':'].intercalate (a.octets.map Hex.encodeOctet)

/-- The text of an address. -/
def text (a : MacAddress) : String :=
  String.ofList a.chars

/-! ## Reading -/

/-- A reader of so many octets from hexadecimal digits. -/
abbrev OctetDecoder := (width : Nat) → List Char → Option (List UInt8)

/-- How many octets a text takes in UTF-8. -/
def byteLength : List Char → Nat
  | [] => 0
  | c :: cs => c.utf8Size + byteLength cs

/-- A text with a hyphen anywhere is cut at hyphens, any other at colons. -/
def separator (cs : List Char) : Char :=
  if '-' ∈ cs then '-' else ':'

/-- The pieces of an address text that should each be one octet. -/
def octetPieces (cs : List Char) : List (List Char) :=
  let sep := separator cs
  Text.pieces (· == sep) cs

/-- There is one piece more than there are separators. -/
theorem length_octetPieces (cs : List Char) :
    (octetPieces cs).length = cs.count (separator cs) + 1 := by
  rw [octetPieces, Text.length_pieces, List.count]

/-- Reads one octet. Only a piece of two octets is given to the decoder. -/
def readOctet (decode : OctetDecoder) (piece : List Char) : Except AddressError UInt8 :=
  if byteLength piece = 2 then
    match decode 1 piece with
    | some [b] => .ok b
    | _ => .error (.invalidOctet (String.ofList piece))
  else .error (.invalidOctet (String.ofList piece))

/-- Reads the pieces from first to last, up to the first that is no octet. -/
def readOctets (decode : OctetDecoder) : List (List Char) → Except AddressError (List UInt8)
  | [] => .ok []
  | piece :: rest =>
    match readOctet decode piece with
    | .error e => .error e
    | .ok b => (readOctets decode rest).map (b :: ·)

theorem length_readOctets {decode : OctetDecoder} {ps : List (List Char)} {bs : List UInt8}
    (h : readOctets decode ps = .ok bs) : bs.length = ps.length := by
  induction ps generalizing bs with
  | nil => cases h; rfl
  | cons p ps ih =>
    rw [readOctets] at h
    split at h
    · cases h
    · cases hr : readOctets decode ps with
      | error e => rw [hr] at h; cases h
      | ok t => rw [hr] at h; cases h; simp [ih hr]

/-- Reads an address with a given decoder of octets. -/
def parseWith (decode : OctetDecoder) (s : String) : Except AddressError MacAddress :=
  let cs := Text.trim s.toList
  if cs = [] then .error .empty
  else if hn : (octetPieces cs).length = 6 then
    match hr : readOctets decode (octetPieces cs) with
    | .error e => .error e
    | .ok bs => .ok ⟨bs, (length_readOctets hr).trans hn⟩
  else .error (.wrongOctetCount (octetPieces cs).length)

/-- Reads an address. -/
def parse (s : String) : Except AddressError MacAddress :=
  parseWith Hex.decode? s

end MacAddress

end WifiArbiter
