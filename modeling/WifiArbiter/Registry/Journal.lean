import WifiArbiter.Inspection

/-!
# The journal

What a registry reports of its work, entry by entry. An entry has a level, a
message and named fields; a slot stands in it as its text.
-/

namespace WifiArbiter

/-- What a registry reports of one thing that it did. -/
inductive Entry where
  /-- A candidate entered an empty slot. -/
  | added (slot : Slot) (nominator : UInt32) (score : Int32)
  /-- A candidate took the place of an occupant with a lower score. -/
  | replaced (slot : Slot) (score occupantScore : Int32)
  /-- A nomination lost against the occupant of its slot. -/
  | kept (slot : Slot) (nominator : UInt32) (score occupantScore : Int32)
  /-- A candidate was removed. -/
  | removed (slot : Slot)
  /-- A call had a fault, the `count`-th since the faults were cleared. -/
  | faulted (strict : Bool) (fault : Fault) (count : UInt64)
  /-- A choice was made, with a judgment on so many groups. -/
  | chosen (scorer : String) (candidates judged : Nat) (value : Float) (slot : Option Slot)
deriving DecidableEq

namespace Entry

/-- How much attention an entry asks for. -/
inductive Level where
  | trace
  | debug
  | warn
deriving DecidableEq

/-- The name of a level. -/
def Level.name : Level → String
  | trace => "TRACE"
  | debug => "DEBUG"
  | warn => "WARN"

/-- What a field of an entry holds. -/
inductive Value where
  | integer (n : Int)
  | float (x : Float)
  | text (s : String)
deriving DecidableEq

/-- The level of an entry. A fault asks for attention where it is an error. -/
def level : Entry → Level
  | added .. | replaced .. | kept .. | removed .. => .trace
  | faulted strict .. => if strict then .warn else .debug
  | chosen .. => .debug

/-- The message of an entry. -/
def message : Entry → String
  | added .. => "Adding candidate"
  | replaced .. => "Replacing candidate"
  | kept .. => "Nomination kept incumbent"
  | removed .. => "Removed candidate"
  | faulted strict .. => if strict then "Candidate fault" else "Candidate fault recorded"
  | chosen .. => "Candidate choice made"

/-- The fields of an entry. -/
def fields : Entry → List (String × Value)
  | added slot nominator score =>
    [("key", .text slot.text), ("nominator_index", .integer nominator.toNat),
      ("nominator_score", .integer score.toInt)]
  | replaced slot score occupantScore =>
    [("key", .text slot.text), ("nominator_score", .integer score.toInt),
      ("occupant_score", .integer occupantScore.toInt)]
  | kept slot nominator score occupantScore =>
    [("key", .text slot.text), ("nominator_index", .integer nominator.toNat),
      ("nominator_score", .integer score.toInt), ("occupant_score", .integer occupantScore.toInt)]
  | removed slot => [("key", .text slot.text)]
  | faulted _ fault count =>
    [("fault", .text (inspect fault)), ("faults", .integer count.toNat)]
  | chosen scorer candidates judged value slot =>
    [("scorer", .text scorer), ("candidates", .integer candidates),
      ("groups_scored", .integer judged), ("value", .float value), ("chosen", .text (inspect slot))]

end Entry

end WifiArbiter
