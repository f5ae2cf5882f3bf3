/-!
# Tallies

The running counts of what the calls on a registry have come to. Clearing the
faults of a registry leaves its tally.
-/

namespace WifiArbiter

/-- How often each thing has happened to a registry. -/
structure Tally where
  /-- A candidate entered an empty slot. -/
  additions : UInt64 := 0
  /-- A candidate took the place of another. -/
  replacements : UInt64 := 0
  /-- A nomination lost against the candidate in its slot. -/
  rejections : UInt64 := 0
  /-- A candidate was removed. -/
  removals : UInt64 := 0
  /-- A call had a fault. -/
  faults : UInt64 := 0
deriving DecidableEq

namespace Tally

/-- One addition more. -/
def addition (t : Tally) : Tally := { t with additions := t.additions + 1 }

/-- One replacement more. -/
def replacement (t : Tally) : Tally := { t with replacements := t.replacements + 1 }

/-- One rejection more. -/
def rejection (t : Tally) : Tally := { t with rejections := t.rejections + 1 }

/-- One removal more. -/
def removal (t : Tally) : Tally := { t with removals := t.removals + 1 }

/-- One fault more. -/
def fault (t : Tally) : Tally := { t with faults := t.faults + 1 }

end Tally

end WifiArbiter
