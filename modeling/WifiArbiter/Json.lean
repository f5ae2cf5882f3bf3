/-!
# JSON values

JSON as records are kept in it, and the types whose values have a form there. An
integer and a number with a fraction or an exponent are told apart: only the
first can be a count or an identifier.

A number of fixed width is written as an integer and read back from one in its
range. A floating-point number is read from any number in its range, and written
as one if it is finite; infinities and NaN have no form but `null`, which cannot
be read back.
-/

namespace WifiArbiter

/-- A JSON value. The fields of an object are in no particular order. -/
inductive Json where
  | null
  | bool (b : Bool)
  | int (n : Int)
  | float (x : Float)
  | str (s : String)
  | arr (items : List Json)
  | obj (fields : List (String × Json))

/-- A type whose values have a form in JSON. -/
class JsonForm (α : Type) where
  /-- The form of a value. -/
  write : α → Json
  /-- The value of a form. -/
  read? : Json → Option α

namespace Json

export JsonForm (write read?)

/-! ## Numbers -/

/-- A natural number below a bound. -/
def nat? (bound : Nat) : Json → Option Nat
  | int n => if 0 ≤ n ∧ n < bound then some n.toNat else none
  | _ => none

instance : JsonForm UInt8 where
  write n := int n.toNat
  read? j := (j.nat? UInt8.size).map UInt8.ofNat

instance : JsonForm UInt32 where
  write n := int n.toNat
  read? j := (j.nat? UInt32.size).map UInt32.ofNat

instance : JsonForm UInt64 where
  write n := int n.toNat
  read? j := (j.nat? UInt64.size).map UInt64.ofNat

instance : JsonForm Int32 where
  write n := int n.toInt
  read?
    | int n =>
      if Int32.minValue.toInt ≤ n ∧ n ≤ Int32.maxValue.toInt then some (Int32.ofInt n) else none
    | _ => none

/-- The floating-point number that is nearest to a number. -/
def number? : Json → Option Float
  | float x => some x
  | int n => some (Float.ofInt n)
  | _ => none

instance : JsonForm Float where
  write x := if x.isFinite then float x else null
  read? j := j.number?.filter Float.isFinite

/-! ## Other plain values -/

instance : JsonForm Bool where
  write := bool
  read?
    | bool b => some b
    | _ => none

instance : JsonForm String where
  write := str
  read?
    | str s => some s
    | _ => none

/-- A value that may be lacking has the form `null` where it does. -/
instance {α : Type} [JsonForm α] : JsonForm (Option α) where
  write
    | none => null
    | some a => write a
  read?
    | null => some none
    | j => (read? j).map some

/-- Reads the items of an array one by one. -/
def items? {α : Type} [JsonForm α] : List Json → Option (List α)
  | [] => some []
  | j :: js => do return (← read? j) :: (← items? js)

/-- A name that stands alone, or with `null` in an object of its own. -/
def name? : Json → Option String
  | str s => some s
  | obj [(s, null)] => some s
  | _ => none

/-- The one of some values that a form names. -/
def named? {α : Type} (all : List α) (name : α → String) (j : Json) : Option α :=
  j.name?.bind fun s => all.find? fun a => name a = s

/-! ## Reading back -/

theorem nat?_int {bound n : Nat} (h : n < bound) : nat? bound (int n) = some n := by
  have hb : (0 : Int) ≤ n ∧ (n : Int) < bound := by omega
  simp only [nat?, hb, and_self, ↓reduceIte, Int.toNat_natCast]

theorem read?_write_uint8 (n : UInt8) : read? (write n) = some n := by
  simp only [read?, write, nat?_int n.toNat_lt_size, Option.map_some, UInt8.ofNat_toNat]

theorem read?_write_uint32 (n : UInt32) : read? (write n) = some n := by
  simp only [read?, write, nat?_int n.toNat_lt_size, Option.map_some, UInt32.ofNat_toNat]

theorem read?_write_uint64 (n : UInt64) : read? (write n) = some n := by
  simp only [read?, write, nat?_int n.toNat_lt_size, Option.map_some, UInt64.ofNat_toNat]

theorem read?_write_int32 (n : Int32) : read? (write n) = some n := by
  simp only [read?, write, Int32.ofInt_toInt]
  rw [if_pos ⟨n.minValue_le_toInt, n.toInt_le⟩]

/-- A finite number reads back, and no other does. -/
theorem read?_write_float (x : Float) :
    read? (write x) = if x.isFinite then some x else none := by
  cases hx : x.isFinite <;> simp [read?, write, number?, hx]

end Json

end WifiArbiter
