import WifiArbiter.Proofs.Reshaping

/-!
# Records

Every record that is kept as JSON is read alike from all its forms, has a form as an array if it has
one as an object, and once read is written and read back. The last is so for records with
floating-point numbers, too, because no infinity and no NaN is ever read.

Settings have a default for each field. So they can be read from any part of an object and from the
start of an array, and are the defaults but for what is given. Whether a registry can go by them is
another matter.

Results:
* `Json.readsFrom_records`: the names and the order of the fields of each record.
* `Json.ReadsAlike.of_record`: what has to be shown of each record.
* `Json.read?_settings_obj`, `Json.read?_settings_arr`: settings are the defaults but for what an
  object or an array gives.
* `Json.readsAlike_records`: all records together.
-/

namespace WifiArbiter

namespace Json

/-! ## The records -/

/-- The records in a logical network. -/
def logicalNetworkSchema : Schema := .record logicalNetworkShape [.plain, .plain]

/-- The records in a slot. -/
def slotSchema : Schema := .record slotShape [logicalNetworkSchema, .plain, .plain]

/-- The records in a saved network. -/
def savedNetworkSchema : Schema :=
  .record savedNetworkShape [.plain, .plain, .plain, .plain, .plain]

/-- The records in a scan result. -/
def scanResultSchema : Schema :=
  .record scanResultShape [.plain, .plain, .plain, .plain, .plain, .plain]

/-- The records in a sighting. -/
def sightingSchema : Schema := .record sightingShape [scanResultSchema, .plain]

/-- The records in settings. -/
def settingsSchema : Schema := .record settingsShape [.plain, .plain, .plain]

/-- The records in a tally. -/
def tallySchema : Schema := .record tallyShape [.plain, .plain, .plain, .plain, .plain]

/-- The records in a signal summary. -/
def signalSummarySchema : Schema :=
  .record signalSummaryShape [.plain, .plain, .plain, .plain, .plain]

/-- The records in a judgment. -/
def judgmentSchema : Schema := .record judgmentShape [.plain, .plain, slotSchema]

instance : Shapeless LogicalNetwork logicalNetworkSchema :=
  .of_flat (by decide) rfl (by simp) fun _ => rfl

instance : Shapeless Slot slotSchema :=
  .of_record (by decide) rfl (fun _ => rfl) fun h => by
    obtain _ | ⟨hnetwork, _ | ⟨hbssid, _ | ⟨hid, ⟨⟩⟩⟩⟩ := h
    simp only [Shapeless.read?_eq hnetwork, Shapeless.read?_eq hbssid, Shapeless.read?_eq hid]

instance : Shapeless SavedNetwork savedNetworkSchema :=
  .of_flat (by decide) rfl (by simp) fun _ => rfl

instance : Shapeless ScanResult scanResultSchema :=
  .of_flat (by decide) rfl (by simp) fun _ => rfl

instance : Shapeless Sighting sightingSchema :=
  .of_record (by decide) rfl (fun _ => rfl) fun h => by
    obtain _ | ⟨hresult, _ | ⟨hseen, ⟨⟩⟩⟩ := h
    simp only [Shapeless.read?_eq hresult, Shapeless.read?_eq hseen]

instance : Shapeless Settings settingsSchema :=
  .of_flat (by decide) rfl (by simp) fun _ => rfl

instance : Shapeless Tally tallySchema :=
  .of_flat (by decide) rfl (by simp) fun _ => rfl

instance : Shapeless SignalSummary signalSummarySchema :=
  .of_flat (by decide) rfl (by simp) fun _ => rfl

instance : Shapeless Judgment judgmentSchema :=
  .of_record (by decide) rfl (fun _ => rfl) fun h => by
    obtain _ | ⟨hvalue, _ | ⟨herr, _ | ⟨hslot, ⟨⟩⟩⟩⟩ := h
    simp only [Shapeless.read?_eq hvalue, Shapeless.read?_eq herr, Shapeless.read?_eq hslot]

/-! ## The fields by name and in order -/

/-- The value is read from the object of the fields, and from the array of what they hold. -/
def ReadsFrom {α : Type} [JsonForm α] (a : α) (fields : List (String × Json)) : Prop :=
  read? (.obj fields) = some a ∧ read? (.arr (fields.map Prod.snd)) = some a

/-- A record is read from fields that have the names of its shape and hold what it is made of. -/
theorem ReadsFrom.of_record {α : Type} [JsonForm α] {shape : Shape} {make : List Json → Option α}
    {a : α} {fields : List (String × Json)}
    (hread : ∀ j, (read? j : Option α) = (shape.values? j).bind make)
    (hn : (shape.map Field.name).Nodup) (hnames : fields.map Prod.fst = shape.map Field.name)
    (hmake : make (fields.map Prod.snd) = some a) : ReadsFrom a fields := by
  have hl : (fields.map Prod.snd).length = shape.length := by
    simpa using congrArg List.length hnames
  have hobj : Json.obj fields = shape.write (fields.map Prod.snd) := by
    rw [Shape.write, ← hnames, ← List.unzip_fst, ← List.unzip_snd, List.zip_unzip]
  constructor
  · rw [hread, hobj, Shape.values?_write hn hl]
    exact hmake
  · rw [hread, Shape.values?_arr hl]
    exact hmake

theorem readsFrom_signalSummary {s : SignalSummary} (h : ∀ e ∈ s.numbers, e.2.isFinite = true) :
    ReadsFrom s [("count", write s.count), ("min", write s.min), ("max", write s.max),
      ("mean", write s.mean), ("stddev", write s.stddev)] := by
  refine .of_record (fun _ => rfl) (by decide) rfl ?_
  simp only [SignalSummary.numbers, List.forall_mem_cons] at h
  simp [read?_write_float, h]

theorem readsFrom_judgment {j : Judgment} (h : ∀ e ∈ j.numbers, e.2.isFinite = true) :
    ReadsFrom j [("value", write j.value), ("err", write j.err),
      ("candidate_key", write j.slot)] := by
  refine .of_record (fun _ => rfl) (by decide) rfl ?_
  simp only [Judgment.numbers, List.forall_mem_cons] at h
  simp [read?_write_float, h]

/-- Every record is read from an object that has its fields under these names, and from an array that
has them in this order. The numbers in a summary or a judgment have to be finite. -/
theorem readsFrom_records :
    (∀ n : LogicalNetwork, ReadsFrom n [("ssid", write n.ssid), ("security", write n.security)]) ∧
    (∀ s : Slot, ReadsFrom s [("match_info", write s.network), ("bssid", write s.bssid),
      ("network_id", write s.networkId)]) ∧
    (∀ r : ScanResult, ReadsFrom r [("ssid", write r.ssid), ("bssid", write r.bssid),
      ("capabilities", write r.capabilities), ("level", write r.level),
      ("frequency", write r.frequency), ("timestamp_us", write r.heardAt)]) ∧
    (∀ s : Sighting, ReadsFrom s [("scan_result", write s.result), ("seen", write s.seen)]) ∧
    (∀ n : SavedNetwork, ReadsFrom n [("network_id", write n.id), ("ssid", write n.ssid),
      ("security", write n.security), ("ephemeral", write n.ephemeral),
      ("trusted", write n.trusted)]) ∧
    (∀ s : Settings, ReadsFrom s [("picky", write s.strict),
      ("expected_bssids_per_network", write s.expectedBssids),
      ("log_faults", write s.journalFaults)]) ∧
    (∀ t : Tally, ReadsFrom t [("additions", write t.additions),
      ("replacements", write t.replacements), ("policy_rejections", write t.rejections),
      ("removals", write t.removals), ("faults_total", write t.faults)]) ∧
    (∀ s : SignalSummary, (∀ e ∈ s.numbers, e.2.isFinite = true) →
      ReadsFrom s [("count", write s.count), ("min", write s.min), ("max", write s.max),
        ("mean", write s.mean), ("stddev", write s.stddev)]) ∧
    ∀ j : Judgment, (∀ e ∈ j.numbers, e.2.isFinite = true) →
      ReadsFrom j [("value", write j.value), ("err", write j.err),
        ("candidate_key", write j.slot)] := by
  refine ⟨fun n => ?_, fun s => ?_, fun r => ?_, fun s => ?_, fun n => ?_, fun s => ?_,
    fun t => ?_, fun _ => readsFrom_signalSummary, fun _ => readsFrom_judgment⟩
  all_goals exact .of_record (fun _ => rfl) (by decide) rfl (by simp)

/-! ## Reading and writing -/

/-- Values of the type are read alike from all the forms of a record. What is read from an object is
so from an array as well, and what is read is also read from its written form. -/
structure ReadsAlike (α : Type) [JsonForm α] (σ : Schema) : Prop where
  reshaped : ∀ {j j' : Json}, Reshaped σ j j' → (read? j' : Option α) = read? j
  listed : ∀ {fields : List (String × Json)} {a : α}, read? (.obj fields) = some a →
    ∃ values, Reshaped σ (.obj fields) (.arr values)
  rewritten : ∀ {j : Json} {a : α}, read? j = some a → read? (write a) = some a

theorem ReadsAlike.of_record {α : Type} [JsonForm α] {shape : Shape} {inner : List Schema}
    [Shapeless α (.record shape inner)] {make : List Json → Option α}
    (hread : ∀ j, (read? j : Option α) = (shape.values? j).bind make)
    (hwrite : ∀ {j : Json} {a : α}, read? j = some a → read? (write a) = some a) :
    ReadsAlike α (.record shape inner) where
  reshaped := Shapeless.read?_eq
  listed {fields a} h := by
    rw [hread, Option.bind_eq_some_iff] at h
    obtain ⟨values, hvalues, -⟩ := h
    exact ⟨values, .listed (Shape.ofFields?_eq_some_iff.mp hvalues)⟩
  rewritten := hwrite

/-- The numbers of a summary that is read are finite. -/
theorem isFinite_of_read?_signalSummary {j : Json} {s : SignalSummary} (h : read? j = some s) :
    ∀ e ∈ s.numbers, e.2.isFinite = true := by
  simp only [read?, Option.bind_eq_bind, Option.bind_eq_some_iff] at h
  obtain ⟨values, -, h⟩ := h
  split at h
  · simp only [Option.bind_eq_some_iff, Option.filter_eq_some_iff] at h
    obtain ⟨_, -, _, ⟨-, hmin⟩, _, ⟨-, hmax⟩, _, ⟨-, hmean⟩, _, ⟨-, hstddev⟩, hs⟩ := h
    cases hs
    simp [SignalSummary.numbers, hmin, hmax, hmean, hstddev]
  · cases h

/-- The numbers of a judgment that is read are finite. -/
theorem isFinite_of_read?_judgment {k : Json} {j : Judgment} (h : read? k = some j) :
    ∀ e ∈ j.numbers, e.2.isFinite = true := by
  simp only [read?, Option.bind_eq_bind, Option.bind_eq_some_iff] at h
  obtain ⟨values, -, h⟩ := h
  split at h
  · simp only [Option.bind_eq_some_iff, Option.filter_eq_some_iff] at h
    obtain ⟨_, ⟨-, hvalue⟩, _, ⟨-, herr⟩, _, -, hj⟩ := h
    cases hj
    simp [Judgment.numbers, hvalue, herr]
  · cases h

end Json

/-! ## Settings -/

/-- The defaults, but for what is given. -/
def Settings.overlaid (strict : Option Bool) (expectedBssids : Option UInt64)
    (journalFaults : Option Bool) : Settings :=
  let defaults : Settings := {}
  { strict := strict.getD defaults.strict
    expectedBssids := expectedBssids.getD defaults.expectedBssids
    journalFaults := journalFaults.getD defaults.journalFaults }

/-- A registry takes settings by which it can go, and no others. -/
theorem Registry.exists_ofSettings_iff {s : Settings} :
    (∃ r, Registry.ofSettings s = .ok r) ↔ 1 ≤ s.expectedBssids := by
  have hpos : 1 ≤ s.expectedBssids ↔ s.expectedBssids ≠ 0 := by
    rw [UInt64.le_iff_toNat_le, ne_eq, ← UInt64.toNat_inj]
    exact Nat.one_le_iff_ne_zero
  rw [hpos, Registry.ofSettings, Settings.validate]
  split_ifs with hzero
  · simp [hzero]
  · simp [hzero]

namespace Json

/-- The values that are given are one form of the value, or there are none and neither is it. -/
def Gives {α : Type} [JsonForm α] (values : List Json) (x : Option α) : Prop :=
  List.Forall₂ (fun v a => read? v = some a) values x.toList

/-- A field with a default. -/
def presetField {α : Type} [JsonForm α] (name : String) (default : α) : Field :=
  { name, absence := .preset (write default) }

theorem settingsShape_eq :
    settingsShape = [presetField "picky" false,
      presetField "expected_bssids_per_network" (2 : UInt64), presetField "log_faults" true] := rfl

/-- A field with a default has the value that is given, or the default if none is. -/
theorem bind_choose?_eq_some_iff {α : Type} [JsonForm α] [Faithful α] {name : String}
    {default a : α} {values : List Json} :
    ((presetField name default).choose? values).bind read? = some a ↔
      ∃ x : Option α, Gives values x ∧ a = x.getD default := by
  have hdefault : ((presetField name default).choose? []).bind read? = some default :=
    Faithful.read?_write default
  constructor
  · intro h
    match values, h with
    | [], h =>
      rw [hdefault] at h
      cases h
      exact ⟨none, .nil, rfl⟩
    | [v], h => exact ⟨some a, .cons h .nil, rfl⟩
  · rintro ⟨x, hx, rfl⟩
    cases x with
    | none =>
      cases hx
      exact hdefault
    | some a =>
      obtain _ | ⟨hv, ⟨⟩⟩ := hx
      exact hv

/-- Settings are read one by one from the values of their record. -/
theorem read?_settings_eq_some_iff {j : Json} {s : Settings} {strict expected journal : Option Json}
    (h : settingsShape.values? j = do return [← strict, ← expected, ← journal]) :
    read? j = some s ↔ strict.bind read? = some s.strict ∧
      expected.bind read? = some s.expectedBssids ∧ journal.bind read? = some s.journalFaults := by
  have hread : (read? j : Option Settings) = do
      let a ← strict
      let b ← expected
      let c ← journal
      return { strict := ← read? a, expectedBssids := ← read? b, journalFaults := ← read? c } := by
    change (settingsShape.values? j).bind _ = _
    rw [h]
    cases strict <;> cases expected <;> cases journal <;> rfl
  simp only [hread, Option.bind_eq_bind, Option.bind_eq_some_iff, Option.pure_def]
  constructor
  · rintro ⟨a, ha, b, hb, c, hc, p, hp, n, hn, l, hl, hs⟩
    cases hs
    exact ⟨⟨a, ha, hp⟩, ⟨b, hb, hn⟩, ⟨c, hc, hl⟩⟩
  · rintro ⟨⟨a, ha, hp⟩, ⟨b, hb, hn⟩, ⟨c, hc, hl⟩⟩
    exact ⟨a, ha, b, hb, c, hc, _, hp, _, hn, _, hl, rfl⟩

/-- Where each field has what is given for it or its default, the settings are the defaults but for
what is given. -/
theorem read?_settings_of_choose? {j : Json} {s : Settings} {gp gn gl : List Json}
    (h : settingsShape.values? j = do
      return [← (presetField "picky" false).choose? gp,
        ← (presetField "expected_bssids_per_network" (2 : UInt64)).choose? gn,
        ← (presetField "log_faults" true).choose? gl]) :
    read? j = some s ↔
      ∃ p n l, Gives gp p ∧ Gives gn n ∧ Gives gl l ∧ s = Settings.overlaid p n l := by
  rw [read?_settings_eq_some_iff h, bind_choose?_eq_some_iff, bind_choose?_eq_some_iff,
    bind_choose?_eq_some_iff]
  constructor
  · rintro ⟨⟨p, hp, hstrict⟩, ⟨n, hn, hexpected⟩, ⟨l, hl, hjournal⟩⟩
    refine ⟨p, n, l, hp, hn, hl, ?_⟩
    cases s
    cases hstrict
    cases hexpected
    cases hjournal
    rfl
  · rintro ⟨p, n, l, hp, hn, hl, rfl⟩
    exact ⟨⟨p, hp, rfl⟩, ⟨n, hn, rfl⟩, ⟨l, hl, rfl⟩⟩

/-- Settings in an object are the defaults but for the fields that are given. -/
theorem read?_settings_obj {fields : List (String × Json)} {s : Settings} :
    read? (.obj fields) = some s ↔
      ∃ p n l, Gives (given "picky" fields) p ∧
        Gives (given "expected_bssids_per_network" fields) n ∧
        Gives (given "log_faults" fields) l ∧ s = Settings.overlaid p n l := by
  refine read?_settings_of_choose? ?_
  simp only [settingsShape_eq, Shape.values?, Shape.ofFields?, Field.value?_eq_choose?, presetField,
    Option.bind_eq_bind, Option.pure_def, Option.bind_assoc, Option.bind_some]

/-- Settings in an array are the defaults but for the fields at the start that are given. -/
theorem read?_settings_arr {items : List Json} {s : Settings} (h : items.length ≤ 3) :
    read? (.arr items) = some s ↔
      ∃ p n l, Gives items[0]?.toList p ∧ Gives items[1]?.toList n ∧
        Gives items[2]?.toList l ∧ s = Settings.overlaid p n l := by
  refine read?_settings_of_choose? ?_
  match items, h with
  | [], _ | [_], _ | [_, _], _ | [_, _, _], _ => rfl

/-- An array with more items than there are settings is refused. -/
theorem read?_settings_arr_eq_none {items : List Json} (h : 3 < items.length) :
    read? (.arr items) = (none : Option Settings) := by
  match items, h with
  | _ :: _ :: _ :: _ :: _, _ => rfl

/-! ## All records -/

/-- Every record is read alike from all the shapes of its forms, and once read is written and read
back. Settings are the defaults but for what an object gives by name, whatever the names, or an array
gives in their order, unless it has too many items; and a registry takes them if at least one access
point is expected. -/
theorem readsAlike_records :
    ReadsAlike LogicalNetwork logicalNetworkSchema ∧ ReadsAlike Slot slotSchema ∧
    ReadsAlike ScanResult scanResultSchema ∧ ReadsAlike Sighting sightingSchema ∧
    ReadsAlike SavedNetwork savedNetworkSchema ∧ ReadsAlike Settings settingsSchema ∧
    ReadsAlike Tally tallySchema ∧ ReadsAlike SignalSummary signalSummarySchema ∧
    ReadsAlike Judgment judgmentSchema ∧
    (∀ fields s, read? (.obj fields) = some s ↔
      ∃ p n l, Gives (given "picky" fields) p ∧
        Gives (given "expected_bssids_per_network" fields) n ∧
        Gives (given "log_faults" fields) l ∧ s = Settings.overlaid p n l) ∧
    (∀ items s, items.length ≤ 3 → (read? (.arr items) = some s ↔
      ∃ p n l, Gives items[0]?.toList p ∧ Gives items[1]?.toList n ∧
        Gives items[2]?.toList l ∧ s = Settings.overlaid p n l)) ∧
    (∀ items, 3 < items.length → read? (.arr items) = (none : Option Settings)) ∧
    ∀ s, (∃ r, Registry.ofSettings s = .ok r) ↔ 1 ≤ s.expectedBssids := by
  have hsummary : ∀ {j : Json} {s : SignalSummary}, read? j = some s →
      read? (write s) = some s := fun {j s} h => by
    rw [read?_write_signalSummary, if_pos (isFinite_of_read?_signalSummary h)]
  have hjudgment : ∀ {k : Json} {j : Judgment}, read? k = some j →
      read? (write j) = some j := fun {k j} h => by
    rw [read?_write_judgment, if_pos (isFinite_of_read?_judgment h)]
  have hwrite : ∀ {α : Type} [JsonForm α] [Faithful α] {j : Json} {a : α}, read? j = some a →
      read? (write a) = some a := fun {α _ _ j a} _ => Faithful.read?_write a
  exact ⟨.of_record (fun _ => rfl) hwrite, .of_record (fun _ => rfl) hwrite,
    .of_record (fun _ => rfl) hwrite, .of_record (fun _ => rfl) hwrite,
    .of_record (fun _ => rfl) hwrite, .of_record (fun _ => rfl) hwrite,
    .of_record (fun _ => rfl) hwrite, .of_record (fun _ => rfl) hsummary,
    .of_record (fun _ => rfl) hjudgment, fun _ _ => read?_settings_obj,
    fun _ _ => read?_settings_arr, fun _ => read?_settings_arr_eq_none,
    fun _ => Registry.exists_ofSettings_iff⟩

/-- A judgment as an array, with an object in it that has an array in it, and settings in part. -/
theorem readsAlike_records_nested :
    let c := Candidate.atHome 0 10
    let j : Judgment := ⟨Float.ofBits 0x4000000000000000, Float.ofBits 1, some c.slot⟩
    let bssid := write c.slot.bssid
    let slot := obj [("match_info", obj [("ssid", str "home"), ("security", str "Psk")]),
      ("bssid", bssid), ("network_id", int 1)]
    let slot' := obj [("rank", null), ("network_id", int 1),
      ("match_info", arr [str "home", str "Psk"]), ("bssid", bssid)]
    let form := obj [("value", float j.value), ("err", float j.err), ("candidate_key", slot)]
    let form' := arr [float j.value, float j.err, slot']
    Reshaped judgmentSchema form form' ∧ read? form = some j ∧ read? form' = some j ∧
    read? (write j) = some j ∧
    read? (obj [("expected_bssids_per_network", int 4), ("picky", bool true)]) =
      some (Settings.overlaid (some true) (some 4) none) ∧
    [bool true].length ≤ 3 ∧
    read? (arr [bool true]) = some (Settings.overlaid (some true) none none) ∧
    3 < [bool true, int 2, bool true, null].length ∧
    read? (arr [bool true, int 2, bool true, null]) = (none : Option Settings) := by
  intro c j bssid slot slot' form form'
  obtain ⟨-, -, -, -, -, -, -, -, hjudgment, hobj, harr, hlong, -⟩ := readsAlike_records
  have hnetwork : Reshaped logicalNetworkSchema
      (obj [("ssid", str "home"), ("security", str "Psk")]) (arr [str "home", str "Psk"]) :=
    .listed (.cons (.inl (by simp [given])) (.cons (.inl (by simp [given])) .nil))
  have hslot : Reshaped slotSchema slot slot' :=
    .trans (.field (i := 0) (f := { name := "match_info" }) _ rfl rfl hnetwork)
      (.trans (.reordered (@List.perm_append_comm _ [_, _] [_]))
        (.extended null _ (by decide)))
  have hform : Reshaped judgmentSchema form form' :=
    .trans (.listed (.cons (.inl (by simp [given])) (.cons (.inl (by simp [given]))
      (.cons (.inl (by simp [given])) .nil)))) (.item (i := 2) rfl rfl hslot)
  have hread : read? form = some j := by decide
  refine ⟨hform, hread, (hjudgment.reshaped hform).trans hread, hjudgment.rewritten hread,
    (hobj _ _).mpr ⟨some true, some 4, none, ?_, ?_, ?_, rfl⟩, by decide,
    (harr _ _ (by decide)).mpr ⟨some true, none, none, .cons rfl .nil, .nil, .nil, rfl⟩,
    by decide, hlong _ (by decide)⟩
  · exact .cons rfl .nil
  · exact .cons rfl .nil
  · exact .nil

end Json

end WifiArbiter
