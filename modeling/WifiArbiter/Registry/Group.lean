import WifiArbiter.Candidate

/-!
# Groups of candidates

The candidates for one saved network form a group. Candidates are placed one
after the other, each into the group of its network, or into a new group if
there is none yet. A new group is made with room for as many members as are
expected, and all breaks down where no memory could have so much.

Results:
* `Group.perm_members_ofCandidates`: the members of the groups are the candidates
  that were placed.
-/

namespace WifiArbiter

/-- Why a call does not return. -/
inductive Breakdown where
  /-- More room is asked for than any memory can have. -/
  | capacityOverflow
deriving DecidableEq

/-- The candidates for one saved network. -/
structure Group where
  networkId : NetworkId
  members : List Candidate
deriving DecidableEq

namespace Group

/-- Places a candidate into the group of its network. -/
def place (c : Candidate) : List Group → List Group
  | [] => [⟨c.slot.networkId, [c]⟩]
  | g :: gs =>
    if g.networkId = c.slot.networkId then { g with members := g.members ++ [c] } :: gs
    else g :: place c gs

/-- The groups of a sequence of candidates. -/
def ofCandidates (cs : List Candidate) : List Group :=
  cs.foldl (fun gs c => place c gs) []

/-! ## Room -/

/-- Sets room aside for so many members. Each takes eight bytes, and a block of memory has fewer
than 2⁶³. -/
def reserve (expected : UInt64) : Except Breakdown Unit :=
  if 8 * expected.toNat < 0x8000000000000000 then .ok () else .error .capacityOverflow

/-- Places a candidate. If there is no group of its network yet, room for the expected members is
set aside first. -/
def enter (expected : UInt64) (gs : List Group) (c : Candidate) : Except Breakdown (List Group) :=
  if c.slot.networkId ∈ gs.map networkId then .ok (place c gs)
  else (reserve expected).map fun _ => place c gs

/-- The groups of a sequence of candidates, each made with room for the expected members. -/
def collect (expected : UInt64) (cs : List Candidate) : Except Breakdown (List Group) :=
  cs.foldlM (enter expected) []

/-! ## Members -/

/-- A candidate that is placed comes to the members of all groups, wherever it is placed. -/
theorem perm_members_place (c : Candidate) (gs : List Group) :
    ((place c gs).flatMap members).Perm (gs.flatMap members ++ [c]) := by
  induction gs with
  | nil => exact .refl _
  | cons g gs ih =>
    rw [place]
    split
    · rw [List.flatMap_cons, List.flatMap_cons, List.append_assoc, List.append_assoc]
      exact List.perm_append_comm.append_left _
    · rw [List.flatMap_cons, List.flatMap_cons, List.append_assoc]
      exact ih.append_left _

theorem perm_members_foldl (cs : List Candidate) (gs : List Group) :
    ((cs.foldl (fun gs c => place c gs) gs).flatMap members).Perm (gs.flatMap members ++ cs) := by
  induction cs generalizing gs with
  | nil => rw [List.foldl_nil, List.append_nil]
  | cons c cs ih =>
    have hplaced := (perm_members_place c gs).append_right cs
    rw [List.append_assoc] at hplaced
    exact (ih (place c gs)).trans hplaced

/-- The members of the groups are the candidates that were placed, each as often as it was. -/
theorem perm_members_ofCandidates (cs : List Candidate) :
    ((ofCandidates cs).flatMap members).Perm cs :=
  perm_members_foldl cs []

end Group

end WifiArbiter
