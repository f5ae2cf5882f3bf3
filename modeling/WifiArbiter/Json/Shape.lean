import WifiArbiter.Json

/-!
# The shape of records

A record is kept either as an object, its fields under their names, or as an
array of its fields in a fixed order. In an object the order of the fields does
not matter, and fields that are not of the record are passed over; no field of
the record may be given twice. Both are brought to one list of values in the
fixed order, from which the record is then read.

A field that is not given may be an error, may stand for `null` in an object, or
may have a preset value in objects and arrays.

Results:
* `values?_write`: the form in which a record is written has the values that were
  written.
* `values?_arr`: so has their array.
-/

namespace WifiArbiter.Json

/-- What becomes of a field that is not given. -/
inductive Absence where
  /-- The record cannot be read. -/
  | refused
  /-- In an object the field is `null`; an array has to give it. -/
  | null
  /-- The field has this value. -/
  | preset (value : Json)

/-- One field of a record. -/
structure Field where
  name : String
  absence : Absence := .refused

/-- The fields of a record in their order. -/
abbrev Shape := List Field

/-- The value of a field in an object. -/
def Field.value? (f : Field) (fields : List (String × Json)) : Option Json :=
  match fields.filter fun e => e.1 = f.name with
  | [] =>
    match f.absence with
    | .refused => none
    | .null => some .null
    | .preset value => some value
  | [(_, value)] => some value
  | _ => none

namespace Shape

/-- The values of a record in an object. -/
def ofFields? : Shape → List (String × Json) → Option (List Json)
  | [], _ => some []
  | f :: fs, fields => do return (← f.value? fields) :: (← ofFields? fs fields)

/-- The values of a record in an array. -/
def ofItems? : Shape → List Json → Option (List Json)
  | [], [] => some []
  | [], _ :: _ => none
  | _ :: fs, item :: items => (ofItems? fs items).map (item :: ·)
  | f :: fs, [] =>
    match f.absence with
    | .preset value => (ofItems? fs []).map (value :: ·)
    | _ => none

/-- The values of a record in their order. -/
def values? (s : Shape) : Json → Option (List Json)
  | .obj fields => s.ofFields? fields
  | .arr items => s.ofItems? items
  | _ => none

/-- The form of a record with these values. -/
def write (s : Shape) (values : List Json) : Json :=
  .obj ((s.map Field.name).zip values)

/-! ## What is written has the values that were written -/

theorem value?_zip {f : Field} {fs : Shape} {v : Json} {vs : List Json}
    (h : f.name ∉ fs.map Field.name) :
    f.value? ((f.name, v) :: (fs.map Field.name).zip vs) = some v := by
  have none_else : ((fs.map Field.name).zip vs).filter (fun e => e.1 = f.name) = [] := by
    rw [List.filter_eq_nil_iff]
    intro e he heq
    exact h (of_decide_eq_true heq ▸ (List.of_mem_zip he).1)
  simp [Field.value?, none_else]

theorem ofFields?_cons_of_not_mem {fs : Shape} {name : String} (v : Json)
    (fields : List (String × Json)) (h : name ∉ fs.map Field.name) :
    ofFields? fs ((name, v) :: fields) = ofFields? fs fields := by
  induction fs with
  | nil => rfl
  | cons f fs ih =>
    rw [List.map_cons, List.mem_cons, not_or] at h
    have hf : f.value? ((name, v) :: fields) = f.value? fields := by
      simp only [Field.value?]
      rw [List.filter_cons_of_neg (by simpa using h.1)]
    rw [ofFields?, ofFields?, hf, ih h.2]

theorem ofFields?_zip {s : Shape} {values : List Json} (hs : (s.map Field.name).Nodup)
    (hl : values.length = s.length) :
    s.ofFields? ((s.map Field.name).zip values) = some values := by
  induction s generalizing values with
  | nil => rw [List.length_nil, List.length_eq_zero_iff] at hl; rw [hl]; rfl
  | cons f fs ih =>
    match values, hl with
    | v :: vs, hl =>
      rw [List.map_cons, List.nodup_cons] at hs
      rw [List.map_cons, List.zip_cons_cons, ofFields?, value?_zip hs.1,
        ofFields?_cons_of_not_mem v _ hs.1, ih hs.2 (by simpa using hl)]
      rfl

/-- A record reads back, as far as its values go. -/
theorem values?_write {s : Shape} {values : List Json} (hs : (s.map Field.name).Nodup)
    (hl : values.length = s.length) : s.values? (s.write values) = some values :=
  ofFields?_zip hs hl

/-- The array of the values of a record has those values. -/
theorem values?_arr {s : Shape} {values : List Json} (hl : values.length = s.length) :
    s.values? (.arr values) = some values := by
  rw [values?]
  induction s generalizing values with
  | nil => rw [List.length_nil, List.length_eq_zero_iff] at hl; rw [hl]; rfl
  | cons f fs ih =>
    match values, hl with
    | v :: vs, hl => rw [ofItems?, ih (by simpa using hl)]; rfl

end Shape

end WifiArbiter.Json
