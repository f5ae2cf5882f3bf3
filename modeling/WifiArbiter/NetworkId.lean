import WifiArbiter.Text.Numeral

/-!
# Identifiers of saved networks

A saved network is known by a 32-bit number. The number −1 stands for a network
that has not been saved.
-/

namespace WifiArbiter

/-- The identifier of a network. -/
structure NetworkId where
  value : Int32
deriving DecidableEq

namespace NetworkId

/-- The identifier of a network that has not been saved. -/
def unsaved : NetworkId := ⟨-1⟩

instance : Inhabited NetworkId := ⟨unsaved⟩

/-- Whether a saved network has this identifier. -/
def isSaved (id : NetworkId) : Bool :=
  id != unsaved

/-- Identifiers are ordered as numbers. -/
instance : Ord NetworkId where
  compare a b := compare a.value b.value

/-- The written form of an identifier. -/
def chars (id : NetworkId) : List Char :=
  Text.integer id.value.toInt

/-- The text of an identifier. -/
def text (id : NetworkId) : String :=
  String.ofList id.chars

/-- Different identifiers have different texts. -/
theorem chars_injective {a b : NetworkId} (h : a.chars = b.chars) : a = b := by
  have := Int32.toInt_inj.mp (Text.integer_injective h)
  cases a; cases b; simp_all

end NetworkId

end WifiArbiter
