/-!
# Tables

A table is a finite map from keys to values: a list of pairs in which no key
occurs twice. The order of the list is not part of what a table says.

Results:
* `get?_insert`, `get?_erase`: what a table holds after a change.
* `size_insert_of_get?`, `size_erase_of_get?`: how many keys it then has.
* `mem_entries_iff`: the pairs are those that looking up finds.
* `perm_entries`: they are the same, in some order, where looking up finds the same.
-/

namespace WifiArbiter

/-- A finite map from keys to values. -/
structure Table (κ ν : Type) where
  entries : List (κ × ν)
  nodup_keys : (entries.map Prod.fst).Nodup

namespace Table

variable {κ ν : Type} [DecidableEq κ]

/-- The table without keys. -/
def empty : Table κ ν := ⟨[], List.nodup_nil⟩

/-- The value at a key. -/
def get? (t : Table κ ν) (k : κ) : Option ν :=
  (t.entries.find? fun e => e.1 = k).map Prod.snd

omit [DecidableEq κ] in
theorem nodup_keys_filter (t : Table κ ν) (p : κ × ν → Bool) :
    ((t.entries.filter p).map Prod.fst).Nodup :=
  t.nodup_keys.sublist (List.filter_sublist.map _)

/-- The table without a key. -/
def erase (t : Table κ ν) (k : κ) : Table κ ν :=
  ⟨t.entries.filter fun e => e.1 ≠ k, t.nodup_keys_filter _⟩

theorem not_mem_keys_erase (t : Table κ ν) (k : κ) :
    k ∉ (t.erase k).entries.map Prod.fst := by
  simp [erase]

/-- The table with a value at a key, in place of any other there. -/
def insert (t : Table κ ν) (k : κ) (v : ν) : Table κ ν :=
  ⟨(k, v) :: (t.erase k).entries,
    List.nodup_cons.mpr ⟨t.not_mem_keys_erase k, (t.erase k).nodup_keys⟩⟩

/-- How many keys a table has. -/
def size (t : Table κ ν) : Nat := t.entries.length

/-- The values of a table, in no particular order. -/
def values (t : Table κ ν) : List ν := t.entries.map Prod.snd

/-! ## Looking up -/

omit [DecidableEq κ] in
theorem eq_of_mem_entries {t : Table κ ν} {k : κ} {v w : ν} (hv : (k, v) ∈ t.entries)
    (hw : (k, w) ∈ t.entries) : v = w := by
  obtain ⟨entries, h⟩ := t
  dsimp only at hv hw
  induction entries with
  | nil => cases hv
  | cons e es ih =>
    rw [List.map_cons, List.nodup_cons] at h
    have fresh : ∀ u : ν, e.1 = k → (k, u) ∉ es := fun u he hu =>
      h.1 (he ▸ List.mem_map_of_mem hu)
    rcases List.mem_cons.mp hv with rfl | hv' <;> rcases List.mem_cons.mp hw with hw' | hw'
    · exact (Prod.mk.inj hw').2.symm
    · exact absurd hw' (fresh w rfl)
    · exact absurd hv' (fresh v (hw' ▸ rfl))
    · exact ih h.2 hv' hw'

/-- The pairs of a table are those that looking up finds. -/
theorem mem_entries_iff {t : Table κ ν} {k : κ} {v : ν} :
    (k, v) ∈ t.entries ↔ t.get? k = some v := by
  constructor
  · intro h
    cases hf : t.entries.find? fun e => e.1 = k with
    | none => simpa using List.find?_eq_none.mp hf _ h
    | some e =>
      have he : e.1 = k := by simpa using List.find?_some hf
      have hm := List.mem_of_find?_eq_some hf
      rw [get?, hf, Option.map_some, eq_of_mem_entries h (w := e.2) (he ▸ hm)]
  · intro h
    obtain ⟨e, hf, rfl⟩ := Option.map_eq_some_iff.mp h
    have he : e.1 = k := by simpa using List.find?_some hf
    exact he ▸ List.mem_of_find?_eq_some hf

@[simp] theorem get?_empty (k : κ) : (empty : Table κ ν).get? k = none := rfl

theorem get?_erase (t : Table κ ν) (k l : κ) :
    (t.erase k).get? l = if l = k then none else t.get? l := by
  rw [get?, erase, List.find?_filter]
  split
  · rename_i h
    subst h
    rw [List.find?_eq_none.mpr]
    · rfl
    · intro e _; by_cases he : e.1 = l <;> simp [he]
  · rename_i h
    rw [get?]
    congr 2
    funext e
    by_cases he : e.1 = l <;> simp [he, h]

theorem get?_insert (t : Table κ ν) (k l : κ) (v : ν) :
    (t.insert k v).get? l = if l = k then some v else t.get? l := by
  have h := t.get?_erase k l
  rw [get?] at h
  rw [get?, insert, List.find?_cons]
  by_cases hl : l = k
  · simp [hl]
  · have hk : decide (k = l) = false := by simpa using Ne.symm hl
    simp only [hk, hl, ↓reduceIte] at h ⊢
    exact h

/-! ## Order -/

/-- Tables in which looking up finds the same have the same pairs, in some order. -/
theorem perm_entries {t u : Table κ ν} (h : ∀ k, t.get? k = u.get? k) :
    t.entries.Perm u.entries := by
  have nodup : ∀ t : Table κ ν, t.entries.Nodup := fun t =>
    List.Pairwise.of_map Prod.fst (fun _ _ => mt (congrArg Prod.fst)) t.nodup_keys
  refine (List.perm_ext_iff_of_nodup (nodup t) (nodup u)).mpr fun ⟨k, v⟩ => ?_
  rw [mem_entries_iff, mem_entries_iff, h]

/-- Erasing a key takes its value from the values, and leaves the others. -/
theorem perm_values_erase {t : Table κ ν} {k : κ} {v : ν} (h : t.get? k = some v) :
    (v :: (t.erase k).values).Perm t.values := by
  have hentries : (t.insert k v).entries.Perm t.entries := perm_entries fun l => by
    rw [get?_insert]
    split
    · rename_i hl
      rw [hl, h]
    · rfl
  exact hentries.map Prod.snd

/-! ## Size -/

omit [DecidableEq κ] in
@[simp] theorem size_empty : (empty : Table κ ν).size = 0 := rfl

theorem erase_of_get?_eq_none {t : Table κ ν} {k : κ} (h : t.get? k = none) :
    (t.erase k).entries = t.entries := by
  rw [erase, List.filter_eq_self]
  rintro ⟨l, v⟩ he
  have : l ≠ k := by
    rintro rfl
    rw [mem_entries_iff, h] at he
    cases he
  simpa using this

theorem length_filter_ne {es : List (κ × ν)} (h : (es.map Prod.fst).Nodup) {k : κ} {v : ν}
    (hm : (k, v) ∈ es) : (es.filter fun e => e.1 ≠ k).length + 1 = es.length := by
  induction es with
  | nil => cases hm
  | cons e es ih =>
    rw [List.map_cons, List.nodup_cons] at h
    by_cases he : e.1 = k
    · have rest : es.filter (fun e => e.1 ≠ k) = es := by
        rw [List.filter_eq_self]
        intro d hd
        have : d.1 ≠ k := fun hk => h.1 (he ▸ hk ▸ List.mem_map_of_mem hd)
        simpa using this
      rw [List.filter_cons_of_neg (by simp [he]), rest, List.length_cons]
    · have hm' : (k, v) ∈ es := by
        rcases List.mem_cons.mp hm with rfl | hm'
        · exact absurd rfl he
        · exact hm'
      simpa [he] using ih h.2 hm'

/-- Erasing a key that has a value makes a table smaller by one. -/
theorem size_erase_of_get? {t : Table κ ν} {k : κ} {v : ν} (h : t.get? k = some v) :
    (t.erase k).size + 1 = t.size :=
  length_filter_ne t.nodup_keys (mem_entries_iff.mpr h)

/-- A value at a fresh key makes a table greater by one. -/
theorem size_insert_of_get?_eq_none {t : Table κ ν} {k : κ} (v : ν) (h : t.get? k = none) :
    (t.insert k v).size = t.size + 1 := by
  rw [size, insert, List.length_cons, erase_of_get?_eq_none h, size]

/-- A value in place of another leaves the size of a table. -/
theorem size_insert_of_get? {t : Table κ ν} {k : κ} (v : ν) {w : ν} (h : t.get? k = some w) :
    (t.insert k v).size = t.size := by
  rw [← size_erase_of_get? h]
  rfl

/-- The values of a table are those that looking up finds. -/
theorem mem_values_iff {t : Table κ ν} {v : ν} : v ∈ t.values ↔ ∃ k, t.get? k = some v := by
  simp only [values, List.mem_map, Prod.exists, exists_eq_right]
  exact exists_congr fun _ => mem_entries_iff

end Table

end WifiArbiter
