import WifiArbiter.Json.Registries
import WifiArbiter.Json.Scans
import WifiArbiter.Json.Scores
import WifiArbiter.Proofs.LiveChoice

/-!
# Round trips

Everything that is kept as JSON reads back from its form, but for the floating-point numbers that
are not finite: they are written as `null`, and a summary or a judgment with one of them does not
read back. So the judgment on nothing at all does not, and every judgment of a candidate does.

A type is faithful when all its values read back and none is written as `null`, so that a value that
may be lacking reads back too. A record is read from the values that were written, whatever its
shape; that it is faithful then follows from its fields.

Results:
* `Json.read?_write_option`: a value that may be lacking reads back.
* `Json.named?_str`: so does a value that is written as its name.
* `Json.Shape.bind_values?_write`: a record is read from the values that were written.
* `Json.read?_write_signalSummary`, `Json.read?_write_judgment`: which summaries and judgments
  read back.
* `Json.roundTrip`: all types together.
-/

namespace WifiArbiter

namespace Json

/-- A type whose values read back from their forms. No form is `null`, which stands for what is
lacking. -/
class Faithful (α : Type) [JsonForm α] : Prop where
  read?_write (a : α) : read? (write a) = some a
  write_ne_null (a : α) : write a ≠ null

attribute [simp] Faithful.read?_write

/-! ## Plain values -/

instance : Faithful UInt8 := ⟨read?_write_uint8, nofun⟩

instance : Faithful UInt32 := ⟨read?_write_uint32, nofun⟩

instance : Faithful UInt64 := ⟨read?_write_uint64, nofun⟩

instance : Faithful Int32 := ⟨read?_write_int32, nofun⟩

instance : Faithful Bool := ⟨fun _ => rfl, nofun⟩

instance : Faithful String := ⟨fun _ => rfl, nofun⟩

section Containers

variable {α : Type} [JsonForm α]

theorem read?_option_of_ne_null {j : Json} (h : j ≠ null) :
    (read? j : Option (Option α)) = (read? j).map some := by
  cases j with
  | null => exact absurd rfl h
  | bool _ | int _ | float _ | str _ | arr _ | obj _ => rfl

variable [Faithful α]

/-- A value that may be lacking reads back. -/
@[simp] theorem read?_write_option (o : Option α) : read? (write o) = some o := by
  cases o with
  | none => rfl
  | some a =>
    have hwrite : write (some a) = write a := rfl
    rw [hwrite, read?_option_of_ne_null (Faithful.write_ne_null a), Faithful.read?_write,
      Option.map_some]

@[simp] theorem items?_map_write (as : List α) : items? (as.map write) = some as := by
  induction as with
  | nil => rfl
  | cons a as ih => simp [items?, ih]

end Containers

/-- A name is read as the one value that has it. -/
theorem named?_str {α : Type} {all : List α} {name : α → String} (hall : ∀ a, a ∈ all)
    (hname : ∀ a b, name a = name b → a = b) (a : α) :
    named? all name (str (name a)) = some a := by
  rw [named?, name?, Option.bind_some]
  cases hfind : all.find? fun b => name b = name a with
  | none => exact absurd (decide_eq_true rfl) (List.find?_eq_none.mp hfind a (hall a))
  | some b =>
    have hba : name b = name a := by simpa using List.find?_some hfind
    rw [hname b a hba]

theorem securityClass_name_injective (a b : SecurityClass) (h : a.name = b.name) : a = b := by
  revert h
  cases a <;> cases b <;> decide

theorem connectionEvent_name_injective (a b : ConnectionEvent) (h : a.name = b.name) : a = b := by
  revert h
  cases a <;> cases b <;> decide

instance : Faithful SecurityClass :=
  ⟨named?_str SecurityClass.mem_all securityClass_name_injective, nofun⟩

instance : Faithful ConnectionEvent :=
  ⟨named?_str ConnectionEvent.mem_all connectionEvent_name_injective, nofun⟩

instance : Faithful MacAddress where
  read?_write a := by
    have hread : read? (write a) = (items? (a.octets.map write)).bind fun octets =>
        if h : octets.length = 6 then some (MacAddress.mk octets h) else none := rfl
    rw [hread, items?_map_write, Option.bind_some, dif_pos a.length_octets]
  write_ne_null := nofun

instance : Faithful NetworkId where
  read?_write id := by
    have hread : read? (write id) = (read? (write id.value)).map NetworkId.mk := rfl
    rw [hread, Faithful.read?_write, Option.map_some]
  write_ne_null := nofun

instance : Faithful Timestamp where
  read?_write t := by
    have hread : read? (write t) = (read? (write t.millis)).map Timestamp.mk := rfl
    rw [hread, Faithful.read?_write, Option.map_some]
  write_ne_null := nofun

/-! ## Records -/

/-- A record is read from the values that were written. -/
theorem Shape.bind_values?_write {β : Type} {s : Shape} {values : List Json}
    (hs : (s.map Field.name).Nodup) (hl : values.length = s.length) (f : List Json → Option β) :
    (s.values? (s.write values)).bind f = f values := by
  rw [Shape.values?_write hs hl, Option.bind_some]

instance : Faithful LogicalNetwork where
  read?_write _ := (Shape.bind_values?_write (by decide) rfl _).trans (by simp)
  write_ne_null := nofun

instance : Faithful Slot where
  read?_write _ := (Shape.bind_values?_write (by decide) rfl _).trans (by simp)
  write_ne_null := nofun

instance : Faithful SavedNetwork where
  read?_write _ := (Shape.bind_values?_write (by decide) rfl _).trans (by simp)
  write_ne_null := nofun

instance : Faithful ScanResult where
  read?_write _ := (Shape.bind_values?_write (by decide) rfl _).trans (by simp)
  write_ne_null := nofun

instance : Faithful Sighting where
  read?_write _ := (Shape.bind_values?_write (by decide) rfl _).trans (by simp)
  write_ne_null := nofun

instance : Faithful Settings where
  read?_write _ := (Shape.bind_values?_write (by decide) rfl _).trans (by simp)
  write_ne_null := nofun

instance : Faithful Tally where
  read?_write _ := (Shape.bind_values?_write (by decide) rfl _).trans (by simp)
  write_ne_null := nofun

/-! ## Records with floating-point numbers -/

/-- The value of a field of an object. -/
def field? (name : String) : Json → Option Json
  | obj fields => fields.lookup name
  | _ => none

end Json

/-- The floating-point numbers in a summary, each with the name of its field. -/
def SignalSummary.numbers (s : SignalSummary) : List (String × Float) :=
  [("min", s.min), ("max", s.max), ("mean", s.mean), ("stddev", s.stddev)]

/-- The floating-point numbers in a judgment, each with the name of its field. -/
def Judgment.numbers (j : Judgment) : List (String × Float) :=
  [("value", j.value), ("err", j.err)]

namespace Json

/-- A summary reads back if all its numbers are finite, and not otherwise. -/
theorem read?_write_signalSummary (s : SignalSummary) :
    read? (write s) = if ∀ e ∈ s.numbers, e.2.isFinite = true then some s else none := by
  refine (Shape.bind_values?_write (by decide) rfl _).trans ?_
  simp [read?_write_float, apply_ite_left Option.bind, SignalSummary.numbers, ite_and]

/-- A judgment reads back if both its numbers are finite, and not otherwise. -/
theorem read?_write_judgment (j : Judgment) :
    read? (write j) = if ∀ e ∈ j.numbers, e.2.isFinite = true then some j else none := by
  refine (Shape.bind_values?_write (by decide) rfl _).trans ?_
  simp [read?_write_float, apply_ite_left Option.bind, Judgment.numbers, ite_and]

theorem field?_write_signalSummary {s : SignalSummary} {e : String × Float} (h : e ∈ s.numbers) :
    (write s).field? e.1 = some (write e.2) := by
  simp only [SignalSummary.numbers, List.mem_cons, List.not_mem_nil, or_false] at h
  rcases h with rfl | rfl | rfl | rfl <;> rfl

theorem field?_write_judgment {j : Judgment} {e : String × Float} (h : e ∈ j.numbers) :
    (write j).field? e.1 = some (write e.2) := by
  simp only [Judgment.numbers, List.mem_cons, List.not_mem_nil, or_false] at h
  rcases h with rfl | rfl <;> rfl

theorem read?_write_of_ofCandidate {value err : Float} {c : Candidate} {j : Judgment}
    (h : Judgment.ofCandidate value err c = .ok j) : read? (write j) = some j := by
  obtain ⟨hallowed, rfl⟩ := Judgment.ofCandidate_eq_ok_iff.mp h
  have hfinite : ∀ e ∈ (Judgment.mk value err (some c.slot)).numbers, e.2.isFinite = true := by
    simp [Judgment.numbers, hallowed.value_finite, hallowed.err_finite]
  rw [read?_write_judgment, if_pos hfinite]

/-! ## All types -/

/-- Every value reads back from its form, whatever it holds, but for summaries and judgments. In
their forms a number stands as it is if it is finite, and as `null` if not; they read back just when
all their numbers are finite. So the sentinel does not, and every judgment of a candidate does. -/
theorem roundTrip :
    (∀ a : MacAddress, read? (write a) = some a) ∧
    (∀ id : NetworkId, read? (write id) = some id) ∧
    (∀ t : Timestamp, read? (write t) = some t) ∧
    (∀ k : SecurityClass, read? (write k) = some k) ∧
    (∀ n : LogicalNetwork, read? (write n) = some n) ∧
    (∀ s : Slot, read? (write s) = some s) ∧
    (∀ r : ScanResult, read? (write r) = some r) ∧
    (∀ s : Sighting, read? (write s) = some s) ∧
    (∀ n : SavedNetwork, read? (write n) = some n) ∧
    (∀ s : Settings, read? (write s) = some s) ∧
    (∀ t : Tally, read? (write t) = some t) ∧
    (∀ e : ConnectionEvent, read? (write e) = some e) ∧
    (∀ s : SignalSummary,
      (∀ e ∈ s.numbers, (write s).field? e.1 = some (if e.2.isFinite then float e.2 else null)) ∧
      read? (write s) = if ∀ e ∈ s.numbers, e.2.isFinite then some s else none) ∧
    (∀ j : Judgment,
      (∀ e ∈ j.numbers, (write j).field? e.1 = some (if e.2.isFinite then float e.2 else null)) ∧
      read? (write j) = if ∀ e ∈ j.numbers, e.2.isFinite then some j else none) ∧
    read? (write Judgment.sentinel) = (none : Option Judgment) ∧
    ∀ value err c j, Judgment.ofCandidate value err c = .ok j → read? (write j) = some j := by
  refine ⟨Faithful.read?_write, Faithful.read?_write, Faithful.read?_write, Faithful.read?_write,
    Faithful.read?_write, Faithful.read?_write, Faithful.read?_write, Faithful.read?_write,
    Faithful.read?_write, Faithful.read?_write, Faithful.read?_write, Faithful.read?_write,
    fun s => ⟨fun _ h => field?_write_signalSummary h, read?_write_signalSummary s⟩,
    fun j => ⟨fun _ h => field?_write_judgment h, read?_write_judgment j⟩, ?_,
    fun _ _ _ _ h => read?_write_of_ofCandidate h⟩
  have hinfinite : ¬ ∀ e ∈ Judgment.sentinel.numbers, e.2.isFinite = true := by decide
  rw [read?_write_judgment, if_neg hinfinite]

/-- A judgment with the least of the positive errors reads back. -/
theorem roundTrip_leastError :
    let c := Candidate.atHome 0 10
    let j : Judgment := ⟨Float.ofBits 0xBFF0000000000000, Float.ofBits 1, some c.slot⟩
    Judgment.ofCandidate j.value j.err c = .ok j ∧ read? (write j) = some j := by
  intro c j
  have hj : Judgment.ofCandidate j.value j.err c = .ok j := by decide
  obtain ⟨-, -, -, -, -, -, -, -, -, -, -, -, -, -, -, hread⟩ := roundTrip
  exact ⟨hj, hread _ _ _ _ hj⟩

end Json

end WifiArbiter
