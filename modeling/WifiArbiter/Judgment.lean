import WifiArbiter.Candidate
import WifiArbiter.SelectionError

/-!
# Judgments

A judgment is what a scorer makes of a group of candidates: a value, the error
of that value, and the slot of the candidate that is to be chosen. The judgment
on nothing at all has the value −∞, so that it is better than none.
-/

namespace WifiArbiter

/-- The score of a candidate. -/
structure Judgment where
  value : Float
  err : Float
  slot : Option Slot
deriving DecidableEq

namespace Judgment

/-- The judgment of a candidate. The value is finite, and its error finite and positive. -/
def ofCandidate (value err : Float) (c : Candidate) : Except SelectionError Judgment :=
  if value.isFinite ∧ err.isFinite ∧ ¬ err ≤ 0 then .ok ⟨value, err, some c.slot⟩
  else .error (.invalidScore value err)

/-- The judgment where there is nothing to choose. -/
def sentinel : Judgment :=
  ⟨Float.ofBits 0xFFF0000000000000, Float.ofBits 0x7FF0000000000000, none⟩

instance : Inhabited Judgment := ⟨sentinel⟩

/-- Whether a judgment names no slot. -/
def isNone (j : Judgment) : Bool :=
  j.slot.isNone

/-- Whether one judgment has a greater value than another. -/
def isBetter (a b : Judgment) : Bool :=
  b.value < a.value

/-- The best of a sequence of judgments, the first of equals; the sentinel if none
is better than it. -/
def best (js : List Judgment) : Judgment :=
  js.foldl (fun choice j => if j.isBetter choice then j else choice) sentinel

end Judgment

end WifiArbiter
