import WifiArbiter.Proofs.RoundTrip

/-!
# Reshaping

One record has many forms in JSON: the fields of an object come in any order, fields that are not of
the record may stand among them, and the object may as well be the array of its fields, those that
are not given filled in. This holds of the records in a record, too. Forms that differ in no more
than this are read alike, wherever in a value they stand.

A schema says which records there are in the forms of a type, since the fields to be passed over or
filled in are known only from their shapes. A form is reshaped step by step, and each step leaves the
values of the record as they are, up to reshaping of their own.

Results:
* `Json.Reshaped.rel_values?`: the values of a record that is reshaped are reshaped one by one.
* `Json.Shapeless.of_record`: a record is read alike from all its forms if its fields are.
-/

namespace WifiArbiter

namespace Json

/-! ## Forms of one value -/

/-- Where there are records in the forms of a type. -/
inductive Schema where
  /-- There are none. -/
  | plain
  /-- The form is a record, and its fields have forms of these schemas. -/
  | record (shape : Shape) (inner : List Schema)

/-- The values that an object gives under a name. -/
def given (name : String) (fields : List (String × Json)) : List Json :=
  (fields.filter fun e => e.1 = name).map Prod.snd

/-- What is filled in for a field that is not given. -/
def Field.filling? (f : Field) : Option Json :=
  match f.absence with
  | .refused => none
  | .null => some .null
  | .preset value => some value

/-- The object gives the field this value and no other, or it gives it none and this one is filled
in. -/
def Field.Has (f : Field) (fields : List (String × Json)) (v : Json) : Prop :=
  given f.name fields = [v] ∨ given f.name fields = [] ∧ f.filling? = some v

/-- A form of a value can be brought into the shape of another. -/
inductive Reshaped : Schema → Json → Json → Prop where
  | refl (σ : Schema) (j : Json) : Reshaped σ j j
  | trans {σ : Schema} {j k l : Json} : Reshaped σ j k → Reshaped σ k l → Reshaped σ j l
  /-- The fields of an object come in another order. -/
  | reordered {shape : Shape} {inner : List Schema} {fields fields' : List (String × Json)}
      (h : fields.Perm fields') : Reshaped (.record shape inner) (.obj fields) (.obj fields')
  /-- An object has one more field, which is not of the record. -/
  | extended {shape : Shape} {inner : List Schema} {name : String} (v : Json)
      (fields : List (String × Json)) (h : name ∉ shape.map Field.name) :
      Reshaped (.record shape inner) (.obj fields) (.obj ((name, v) :: fields))
  /-- Instead of the object there is the array of the fields in the order of the record. -/
  | listed {shape : Shape} {inner : List Schema} {fields : List (String × Json)}
      {values : List Json} (h : List.Forall₂ (fun f v => f.Has fields v) shape values) :
      Reshaped (.record shape inner) (.obj fields) (.arr values)
  /-- The form in a field of an object is reshaped. -/
  | field {shape : Shape} {inner : List Schema} {i : Nat} {f : Field} {σ : Schema} {v v' : Json}
      (fields : List (String × Json)) (hf : shape[i]? = some f) (hσ : inner[i]? = some σ)
      (h : Reshaped σ v v') :
      Reshaped (.record shape inner) (.obj ((f.name, v) :: fields))
        (.obj ((f.name, v') :: fields))
  /-- The form in an item of an array is reshaped. -/
  | item {shape : Shape} {inner : List Schema} {i : Nat} {σ : Schema} {items : List Json}
      {v v' : Json} (hσ : inner[i]? = some σ) (hv : items[i]? = some v) (h : Reshaped σ v v') :
      Reshaped (.record shape inner) (.arr items) (.arr (items.set i v'))

/-- The values of two forms of a record, one by one reshaped. -/
inductive Alike : List Schema → List Json → List Json → Prop where
  | nil : Alike [] [] []
  | cons {σ : Schema} {inner : List Schema} {v v' : Json} {vs vs' : List Json} :
      Reshaped σ v v' → Alike inner vs vs' → Alike (σ :: inner) (v :: vs) (v' :: vs')

theorem Alike.refl {inner : List Schema} {vs : List Json} (h : vs.length = inner.length) :
    Alike inner vs vs := by
  induction inner generalizing vs with
  | nil => rw [List.length_eq_zero_iff.mp h]; exact .nil
  | cons σ inner ih =>
    cases vs with
    | nil => cases h
    | cons v vs => exact .cons (.refl σ v) (ih (Nat.succ.inj h))

theorem Alike.trans {inner : List Schema} {us vs ws : List Json} (h : Alike inner us vs)
    (h' : Alike inner vs ws) : Alike inner us ws := by
  induction h generalizing ws with
  | nil => exact h'
  | cons hv _ ih =>
    cases h' with
    | cons hv' h' => exact .cons (hv.trans hv') (ih h')

/-! ## Values in objects and arrays -/

section Given

variable {f : Field} {fields fields' : List (String × Json)}

/-- The one value that is given, or what is filled in where none is given. -/
def Field.choose? (f : Field) : List Json → Option Json
  | [] => f.filling?
  | [v] => some v
  | _ => none

theorem Field.value?_eq_choose? (f : Field) (fields : List (String × Json)) :
    f.value? fields = f.choose? (given f.name fields) := by
  rw [value?, given]
  generalize fields.filter (fun e => decide (e.1 = f.name)) = es
  cases es with
  | nil => cases h : f.absence <;> simp [choose?, filling?, h]
  | cons e es => cases es <;> rfl

theorem Field.has_iff {v : Json} : f.Has fields v ↔ f.value? fields = some v := by
  rw [Has, value?_eq_choose?]
  match given f.name fields with
  | [] => simp [choose?]
  | [_] => simp [choose?]
  | _ :: _ :: _ => simp [choose?]

theorem given_cons_self (name : String) (v : Json) (fields : List (String × Json)) :
    given name ((name, v) :: fields) = v :: given name fields := by
  simp [given]

theorem given_cons_of_ne {name name' : String} (h : name' ≠ name) (v : Json)
    (fields : List (String × Json)) :
    given name ((name', v) :: fields) = given name fields := by
  simp [given, h]

theorem Field.choose?_perm {vs vs' : List Json} (h : vs.Perm vs') :
    f.choose? vs' = f.choose? vs := by
  match vs, vs', h with
  | [], _, h => rw [h.nil_eq]
  | [_], _, h => rw [List.perm_singleton.mp h.symm]
  | _ :: _ :: _, _ :: _ :: _, _ => rfl
  | _ :: _ :: _, [], h => cases h.length_eq
  | _ :: _ :: _, [_], h => cases h.length_eq

/-- The order of the fields does not matter to their values. -/
theorem Field.value?_perm (h : fields.Perm fields') : f.value? fields' = f.value? fields := by
  have hgiven : (given f.name fields).Perm (given f.name fields') := (h.filter _).map _
  rw [value?_eq_choose?, value?_eq_choose?, choose?_perm hgiven]

end Given

namespace Shape

variable {shape : Shape} {inner : List Schema} {fields fields' : List (String × Json)}
variable {items values : List Json}

theorem ofFields?_perm (h : fields.Perm fields') :
    shape.ofFields? fields' = shape.ofFields? fields := by
  induction shape with
  | nil => rfl
  | cons f shape ih => rw [ofFields?, ofFields?, Field.value?_perm h, ih]

/-- The values of the fields in an object are those it has for them. -/
theorem ofFields?_eq_some_iff : shape.ofFields? fields = some values ↔
    List.Forall₂ (fun f v => f.Has fields v) shape values := by
  induction shape generalizing values with
  | nil => simp [ofFields?, eq_comm]
  | cons f shape ih =>
    have hread : ofFields? (f :: shape) fields = (f.value? fields).bind fun v =>
        (ofFields? shape fields).bind fun vs => some (v :: vs) := rfl
    simp only [hread, Option.bind_eq_some_iff, Option.some.injEq, List.forall₂_cons_left_iff,
      Field.has_iff, ih]
    constructor
    · rintro ⟨v, hv, vs, hvs, rfl⟩
      exact ⟨v, vs, hv, hvs, rfl⟩
    · rintro ⟨v, vs, hv, hvs, rfl⟩
      exact ⟨v, hv, vs, hvs, rfl⟩

theorem length_ofItems? (h : shape.ofItems? items = some values) :
    values.length = shape.length := by
  induction shape generalizing items values with
  | nil =>
    cases items with
    | nil => cases h; rfl
    | cons item items => cases h
  | cons f shape ih =>
    have hmap : ∀ (items : List Json) (v : Json),
        (ofItems? shape items).map (v :: ·) = some values → values.length = shape.length + 1 := by
      intro items v hvalues
      obtain ⟨vs, hvs, rfl⟩ := Option.map_eq_some_iff.mp hvalues
      rw [List.length_cons, ih hvs]
    cases items with
    | nil =>
      rw [ofItems?] at h
      split at h
      · exact hmap _ _ h
      · cases h
    | cons item items => exact hmap _ _ h

theorem length_values? {j : Json} (h : shape.values? j = some values) :
    values.length = shape.length := by
  cases j with
  | obj fields => exact (ofFields?_eq_some_iff.mp h).length_eq.symm
  | arr items => exact length_ofItems? h
  | null | bool _ | int _ | float _ | str _ => cases h

end Shape

/-! ## Values of reshaped records -/

namespace Reshaped

variable {shape : Shape} {inner : List Schema} {σ : Schema} {v v' : Json}

theorem rel_refl {o : Option (List Json)} (h : ∀ vs ∈ o, vs.length = inner.length) :
    Option.Rel (Alike inner) o o := by
  cases o with
  | none => exact .none
  | some vs => exact .some (.refl (h vs rfl))

theorem rel_trans {o p q : Option (List Json)} (h : Option.Rel (Alike inner) o p)
    (h' : Option.Rel (Alike inner) p q) : Option.Rel (Alike inner) o q := by
  cases h with
  | none => exact h'
  | some h =>
    cases h' with
    | some h' => exact .some (h.trans h')

theorem rel_cons {o o' : Option Json} {os os' : Option (List Json)}
    (h : Option.Rel (Reshaped σ) o o') (hs : Option.Rel (Alike inner) os os') :
    Option.Rel (Alike (σ :: inner)) (do return (← o) :: (← os)) (do return (← o') :: (← os')) := by
  cases h with
  | none => exact .none
  | some h =>
    cases hs with
    | none => exact .none
    | some hs => exact .some (.cons h hs)

theorem rel_map_cons (h : Reshaped σ v v') {os os' : Option (List Json)}
    (hs : Option.Rel (Alike inner) os os') :
    Option.Rel (Alike (σ :: inner)) (os.map (v :: ·)) (os'.map (v' :: ·)) := by
  cases hs with
  | none => exact .none
  | some hs => exact .some (.cons h hs)

/-- Where one of the fields of an object is reshaped, so is its value, and the others stay. -/
theorem rel_ofFields? (hn : (shape.map Field.name).Nodup) (hl : inner.length = shape.length)
    {i : Nat} {f : Field} (hf : shape[i]? = some f) (hσ : inner[i]? = some σ)
    (h : Reshaped σ v v') (fields : List (String × Json)) :
    Option.Rel (Alike inner) (shape.ofFields? ((f.name, v) :: fields))
      (shape.ofFields? ((f.name, v') :: fields)) := by
  induction shape generalizing inner i with
  | nil => cases hf
  | cons g shape ih =>
    rw [List.map_cons, List.nodup_cons] at hn
    cases inner with
    | nil => cases hl
    | cons τ inner =>
      have hl' : inner.length = shape.length := Nat.succ.inj hl
      cases i with
      | zero =>
        cases hf
        cases hσ
        refine rel_cons ?_ ?_
        · rw [Field.value?_eq_choose?, Field.value?_eq_choose?, given_cons_self, given_cons_self]
          cases given f.name fields with
          | nil => exact .some h
          | cons => exact .none
        · rw [Shape.ofFields?_cons_of_not_mem v fields hn.1,
            Shape.ofFields?_cons_of_not_mem v' fields hn.1]
          exact rel_refl fun vs hvs =>
            (Shape.ofFields?_eq_some_iff.mp hvs).length_eq.symm.trans hl'.symm
      | succ i =>
        have hf' : shape[i]? = some f := hf
        have hne : f.name ≠ g.name := fun hname =>
          hn.1 (hname ▸ List.mem_map_of_mem (List.mem_of_getElem? hf'))
        refine rel_cons ?_ (ih hn.2 hl' hf' hσ)
        rw [Field.value?_eq_choose?, Field.value?_eq_choose?, given_cons_of_ne hne,
          given_cons_of_ne hne]
        cases g.choose? (given g.name fields) with
        | none => exact .none
        | some w => exact .some (.refl τ w)

/-- Where one of the items of an array is reshaped, so is the value of its field. -/
theorem rel_ofItems? (hl : inner.length = shape.length) {i : Nat} {items : List Json}
    (hσ : inner[i]? = some σ) (hv : items[i]? = some v) (h : Reshaped σ v v') :
    Option.Rel (Alike inner) (shape.ofItems? items) (shape.ofItems? (items.set i v')) := by
  induction shape generalizing inner i items with
  | nil =>
    rw [List.length_eq_zero_iff.mp hl] at hσ
    cases hσ
  | cons g shape ih =>
    cases inner with
    | nil => cases hl
    | cons τ inner =>
      have hl' : inner.length = shape.length := Nat.succ.inj hl
      cases items with
      | nil => cases hv
      | cons item items =>
        cases i with
        | zero =>
          cases hσ
          cases hv
          exact rel_map_cons h (rel_refl fun vs hvs => (Shape.length_ofItems? hvs).trans hl'.symm)
        | succ i => exact rel_map_cons (.refl τ item) (ih hl' hσ hv)

/-- The values of a record that is reshaped are reshaped one by one, or there are none either way. -/
theorem rel_values? (hn : (shape.map Field.name).Nodup) (hl : inner.length = shape.length)
    {j j' : Json} (h : Reshaped (.record shape inner) j j') :
    Option.Rel (Alike inner) (shape.values? j) (shape.values? j') := by
  have hsame : ∀ k : Json, Option.Rel (Alike inner) (shape.values? k) (shape.values? k) :=
    fun _ => rel_refl fun _ hvs => (Shape.length_values? hvs).trans hl.symm
  generalize hσ : Schema.record shape inner = σ at h
  induction h with
  | refl σ j => exact hsame j
  | trans _ _ ih ih' => exact rel_trans (ih hσ) (ih' hσ)
  | @reordered _ _ fields fields' hperm =>
    have hvalues : shape.values? (.obj fields') = shape.values? (.obj fields) :=
      Shape.ofFields?_perm hperm
    rw [hvalues]
    exact hsame _
  | @extended _ _ name v fields hname =>
    cases hσ
    have hvalues : shape.values? (.obj ((name, v) :: fields)) = shape.values? (.obj fields) :=
      Shape.ofFields?_cons_of_not_mem v fields hname
    rw [hvalues]
    exact hsame _
  | @listed _ _ fields values hvalues =>
    cases hσ
    have hobj : shape.values? (.obj fields) = some values :=
      Shape.ofFields?_eq_some_iff.mpr hvalues
    rw [hobj, Shape.values?_arr hvalues.length_eq.symm, ← hobj]
    exact hsame _
  | field fields hf hτ hv _ =>
    cases hσ
    exact rel_ofFields? hn hl hf hτ hv fields
  | item hτ hv hitem _ =>
    cases hσ
    exact rel_ofItems? hl hτ hv hitem

/-- A form without records has no other shape. -/
theorem eq_of_plain {j j' : Json} (h : Reshaped .plain j j') : j' = j := by
  generalize hσ : Schema.plain = σ at h
  induction h with
  | refl => rfl
  | trans _ _ ih ih' => exact (ih' hσ).trans (ih hσ)
  | reordered | extended | listed | field | item => cases hσ

/-- What is lacking stays so. -/
theorem eq_null_iff {j j' : Json} (h : Reshaped σ j j') : j' = null ↔ j = null := by
  induction h with
  | refl => exact Iff.rfl
  | trans _ _ ih ih' => exact ih'.trans ih
  | reordered | extended | listed | field | item => exact ⟨nofun, nofun⟩

end Reshaped

theorem Alike.eq_of_plain {inner : List Schema} {vs vs' : List Json} (h : Alike inner vs vs')
    (hinner : ∀ σ ∈ inner, σ = .plain) : vs' = vs := by
  induction h with
  | nil => rfl
  | @cons σ inner v v' vs vs' hv _ ih =>
    rw [List.forall_mem_cons] at hinner
    rw [hinner.1] at hv
    rw [hv.eq_of_plain, ih hinner.2]

/-! ## Reading what is reshaped -/

/-- Values of the type are read alike from all the shapes of a form. -/
class Shapeless (α : Type) [JsonForm α] (σ : outParam Schema) : Prop where
  read?_eq {j j' : Json} : Reshaped σ j j' → (read? j' : Option α) = read? j

namespace Shapeless

variable {α : Type} [JsonForm α] {shape : Shape} {inner : List Schema}

theorem of_plain : Shapeless α .plain where
  read?_eq h := by rw [h.eq_of_plain]

/-- A record is read alike from all its forms if what is made of its values is. -/
theorem of_record {make : List Json → Option α} (hn : (shape.map Field.name).Nodup)
    (hl : inner.length = shape.length)
    (hread : ∀ j, (read? j : Option α) = (shape.values? j).bind make)
    (hmake : ∀ {vs vs' : List Json}, Alike inner vs vs' → make vs' = make vs) :
    Shapeless α (.record shape inner) where
  read?_eq {j j'} h := by
    rw [hread, hread]
    have hrel := h.rel_values? hn hl
    generalize shape.values? j = o at hrel
    generalize shape.values? j' = o' at hrel
    cases hrel with
    | none => rfl
    | some halike => exact hmake halike

/-- A record without records in it is read alike from all its forms. -/
theorem of_flat {make : List Json → Option α} (hn : (shape.map Field.name).Nodup)
    (hl : inner.length = shape.length) (hinner : ∀ σ ∈ inner, σ = .plain)
    (hread : ∀ j, (read? j : Option α) = (shape.values? j).bind make) :
    Shapeless α (.record shape inner) :=
  of_record hn hl hread fun h => by rw [h.eq_of_plain hinner]

end Shapeless

instance : Shapeless Float .plain := .of_plain

instance : Shapeless MacAddress .plain := .of_plain

instance : Shapeless NetworkId .plain := .of_plain

instance : Shapeless Timestamp .plain := .of_plain

instance {α : Type} [JsonForm α] {σ : Schema} [Shapeless α σ] : Shapeless (Option α) σ where
  read?_eq {j j'} h := by
    by_cases hj : j = null
    · rw [hj, h.eq_null_iff.mpr hj]
    · have hj' : j' ≠ null := fun hnull => hj (h.eq_null_iff.mp hnull)
      rw [read?_option_of_ne_null hj, read?_option_of_ne_null hj', Shapeless.read?_eq h]

end Json

end WifiArbiter
