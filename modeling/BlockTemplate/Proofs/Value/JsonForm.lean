import BlockTemplate.Proofs.Number.StrictInteger
import BlockTemplate.Proofs.Properties.Lookup

/-!
# Values and JSON, there and back

Converting a value to JSON and reading it again gives the value back, unless a date or a double that
is not finite occurs in it. JSON is what its value is converted to, unless one of its numbers is no
integer of 64 bits and no finite double.

## Implementation notes

Both conversions keep the fields of an object in place. Fields in key order are already what
collecting them by key would make of them (`Fields.ofList_of_sorted`), so nothing is lost there.

Main statements: `Value.ofJson_toJson_iff`, `Value.toJson_ofJson_iff`, `Value.json_roundTrip`.
-/

namespace BlockTemplate

/-! ### Fields collected by key -/

namespace Fields

variable {α β : Type}

/-- A key behind all others is put at the end. -/
theorem insert_of_forall_lt {key : String} {fields : List (String × α)}
    (h : ∀ p ∈ fields, p.1 < key) (value : α) :
    insert key value fields = fields ++ [(key, value)] := by
  induction fields with
  | nil => rfl
  | cons p fields ih =>
      obtain ⟨hp, hrest⟩ := List.forall_mem_cons.1 h
      have hnot : ¬key < p.1 := lt_asymm hp
      have hne : key ≠ p.1 := hp.ne'
      rw [insert, if_neg hnot, if_neg hne, ih hrest, List.cons_append]

theorem foldl_insert_of_sorted {done fields : List (String × α)} (h : Sorted (done ++ fields)) :
    fields.foldl (fun fields p => insert p.1 p.2 fields) done = done ++ fields := by
  induction fields generalizing done with
  | nil => rw [List.foldl_nil, List.append_nil]
  | cons p fields ih =>
      have hbefore : ∀ q ∈ done, q.1 < p.1 := fun q hq =>
        (List.pairwise_append.1 h).2.2 q hq p List.mem_cons_self
      rw [List.append_cons] at h ⊢
      rw [List.foldl_cons, insert_of_forall_lt hbefore]
      exact ih h

/-- Fields in key order are collected as they are. -/
theorem ofList_of_sorted {fields : List (String × α)} (h : Sorted fields) :
    ofList fields = fields :=
  foldl_insert_of_sorted h

/-- Values have no part in the order of fields. -/
theorem Sorted.map {fields : List (String × α)} (h : Sorted fields) (f : α → β) :
    Sorted (fields.map fun p => (p.1, f p.2)) :=
  List.pairwise_map.2 h

end Fields

/-! ### What is kept -/

namespace Value

mutual

/-- No date and no double that is not finite occurs in a value, at any depth. -/
def HasJsonForm : Value → Prop
  | float x => x.isFinite = true
  | date _ => False
  | list items => ItemsHaveJsonForm items
  | object fields => FieldsHaveJsonForm fields
  | null | bool _ | integer _ | string _ => True

def ItemsHaveJsonForm : List Value → Prop
  | [] => True
  | value :: rest => HasJsonForm value ∧ ItemsHaveJsonForm rest

def FieldsHaveJsonForm : List (String × Value) → Prop
  | [] => True
  | (_, value) :: rest => HasJsonForm value ∧ FieldsHaveJsonForm rest

end

end Value

namespace Json

mutual

/-- Every number in JSON data is an integer of 64 bits with sign or a finite double. -/
def NumbersFit : Json → Prop
  | integer n => Number.FitsWord n
  | float x => x.isFinite = true
  | array items => ItemsNumbersFit items
  | object fields => FieldsNumbersFit fields
  | null | bool _ | string _ => True

def ItemsNumbersFit : List Json → Prop
  | [] => True
  | j :: rest => NumbersFit j ∧ ItemsNumbersFit rest

def FieldsNumbersFit : List (String × Json) → Prop
  | [] => True
  | (_, j) :: rest => NumbersFit j ∧ FieldsNumbersFit rest

end

end Json

namespace Value

/-! ### Numbers -/

theorem ofInt_toInt (w : Int64) : ofInt w.toInt = integer w := by
  rw [ofInt, Number.word?_toInt]

/-- A double has a form in JSON just if it is finite. -/
theorem toJson_float_eq_iff (x : Float) : (float x).toJson = .float x ↔ x.isFinite = true := by
  rw [toJson]
  split <;> simp_all

/-- An integer that is no word becomes a double, which is another number. -/
theorem toJson_ofInt_eq_iff (n : Int) : (ofInt n).toJson = .integer n ↔ Number.FitsWord n := by
  by_cases hfits : Number.FitsWord n
  · obtain ⟨w, rfl⟩ := hfits.exists_toInt
    rw [ofInt_toInt, toJson]
    exact iff_of_true rfl hfits
  · rw [ofInt, Number.word?_of_not_fitsWord hfits, toJson]
    refine iff_of_false ?_ hfits
    split <;> simp

/-! ### There and back -/

mutual

theorem ofJson_toJson_iff : ∀ v : Value, ofJson v.toJson = v ↔ v.HasJsonForm
  | null | bool _ | string _ => iff_of_true rfl trivial
  | integer n => iff_of_true (ofInt_toInt n) trivial
  | float x => by
      rw [HasJsonForm, ← toJson_float_eq_iff, toJson]
      split <;> simp [ofJson]
  | date m => by simp [HasJsonForm, toJson, ofJson]
  | list items => by
      simpa [HasJsonForm, toJson, ofJson] using itemsOfJson_itemsToJson_iff items
  | object fields => by
      simpa [HasJsonForm, toJson, ofJson] using fieldsOfJson_fieldsToJson_iff fields

theorem itemsOfJson_itemsToJson_iff :
    ∀ items : List Value, itemsOfJson (itemsToJson items) = items ↔ ItemsHaveJsonForm items
  | [] => iff_of_true rfl trivial
  | v :: items => by
      rw [itemsToJson, itemsOfJson, List.cons.injEq, ItemsHaveJsonForm, ofJson_toJson_iff v,
        itemsOfJson_itemsToJson_iff items]

theorem fieldsOfJson_fieldsToJson_iff : ∀ fields : List (String × Value),
    fieldsOfJson (fieldsToJson fields) = fields ↔ FieldsHaveJsonForm fields
  | [] => iff_of_true rfl trivial
  | (key, v) :: fields => by
      rw [fieldsToJson, fieldsOfJson, List.cons.injEq, FieldsHaveJsonForm, ← ofJson_toJson_iff v,
        ← fieldsOfJson_fieldsToJson_iff fields, Prod.mk.injEq, and_iff_right rfl]

end

mutual

theorem toJson_ofJson_iff : ∀ j : Json, (ofJson j).toJson = j ↔ j.NumbersFit
  | .null | .bool _ | .string _ => iff_of_true rfl trivial
  | .integer n => toJson_ofInt_eq_iff n
  | .float x => toJson_float_eq_iff x
  | .array items => by
      simpa [Json.NumbersFit, toJson, ofJson] using itemsToJson_itemsOfJson_iff items
  | .object fields => by
      simpa [Json.NumbersFit, toJson, ofJson] using fieldsToJson_fieldsOfJson_iff fields

theorem itemsToJson_itemsOfJson_iff :
    ∀ items : List Json, itemsToJson (itemsOfJson items) = items ↔ Json.ItemsNumbersFit items
  | [] => iff_of_true rfl trivial
  | j :: items => by
      rw [itemsOfJson, itemsToJson, List.cons.injEq, Json.ItemsNumbersFit, toJson_ofJson_iff j,
        itemsToJson_itemsOfJson_iff items]

theorem fieldsToJson_fieldsOfJson_iff : ∀ fields : List (String × Json),
    fieldsToJson (fieldsOfJson fields) = fields ↔ Json.FieldsNumbersFit fields
  | [] => iff_of_true rfl trivial
  | (key, j) :: fields => by
      rw [fieldsOfJson, fieldsToJson, List.cons.injEq, Json.FieldsNumbersFit,
        ← toJson_ofJson_iff j, ← fieldsToJson_fieldsOfJson_iff fields, Prod.mk.injEq,
        and_iff_right rfl]

end

/-! ### Objects -/

theorem fieldsToJson_eq_map (fields : List (String × Value)) :
    fieldsToJson fields = fields.map fun p => (p.1, p.2.toJson) := by
  induction fields with
  | nil => rfl
  | cons p fields ih => rw [fieldsToJson, ih, List.map_cons]

theorem toJson_object_of_sorted {fields : List (String × Value)} (h : Fields.Sorted fields) :
    (object fields).toJson = .ofFields (fields.map fun p => (p.1, p.2.toJson)) := by
  rw [toJson, fieldsToJson_eq_map, Json.ofFields, Fields.ofList_of_sorted (h.map toJson)]

theorem ofJson_object_of_sorted {fields : List (String × Json)} (h : Fields.Sorted fields) :
    ofJson (.object fields) = ofFields (fields.map fun p => (p.1, ofJson p.2)) := by
  rw [ofJson, fieldsOfJson_eq_map, ofFields, Fields.ofList_of_sorted (h.map ofJson)]

/-- Just the values without dates and without doubles that are not finite come back from JSON, and
just the JSON data whose numbers are words or finite doubles come back from their value. Integers
and doubles stay apart on both ways, since what comes back is equal. Converting an object is
collecting its converted fields by key. -/
theorem json_roundTrip :
    (∀ v : Value, ofJson v.toJson = v ↔ v.HasJsonForm) ∧
      (∀ j : Json, (ofJson j).toJson = j ↔ j.NumbersFit) ∧
      (∀ fields : List (String × Value), Fields.Sorted fields →
        (object fields).toJson = .ofFields (fields.map fun p => (p.1, p.2.toJson))) ∧
      ∀ fields : List (String × Json), Fields.Sorted fields →
        ofJson (.object fields) = ofFields (fields.map fun p => (p.1, ofJson p.2)) :=
  ⟨ofJson_toJson_iff, toJson_ofJson_iff, fun _ => toJson_object_of_sorted,
    fun _ => ofJson_object_of_sorted⟩

/-- An integral double beside the integer, a negative zero, the least word, and the first integer
above the words. -/
theorem json_roundTrip_integral_double :
    let fields : List (String × Value) :=
      [("a", .list [.float 1.0, .integer 1, .float (-0.0)]), ("b", .integer Int64.minValue)]
    let data : List (String × Json) :=
      [("a", .array [.float 1.0, .integer 1, .float (-0.0)]), ("b", .integer (-2 ^ 63))]
    Fields.Sorted fields ∧ Fields.Sorted data ∧
      (object fields).toJson = .ofFields data ∧ ofJson (.object data) = ofFields fields ∧
      ofJson (object fields).toJson = object fields ∧
      (ofJson (.object data)).toJson = .object data ∧
      (ofJson (.integer (2 ^ 63))).toJson ≠ .integer (2 ^ 63) := by
  intro fields data
  have hfields : Fields.Sorted fields := by
    unfold Fields.Sorted fields
    decide +kernel
  have hdata : Fields.Sorted data := by
    unfold Fields.Sorted data
    decide +kernel
  have hone : (1.0 : Float).isFinite = true := by decide
  have hzero : (-0.0 : Float).isFinite = true := by decide
  obtain ⟨hvalues, hjson, hto, hof⟩ := json_roundTrip
  have hform : (object fields).HasJsonForm := by
    simp [fields, HasJsonForm, FieldsHaveJsonForm, ItemsHaveJsonForm, hone, hzero]
  have hfit : (Json.object data).NumbersFit := by
    simp [data, Json.NumbersFit, Json.FieldsNumbersFit, Json.ItemsNumbersFit, Number.FitsWord,
      hone, hzero]
  have hword : ¬(Json.integer (2 ^ 63)).NumbersFit := by
    simp [Json.NumbersFit, Number.FitsWord]
  refine ⟨hfields, hdata, ?_, ?_, (hvalues _).2 hform, (hjson _).2 hfit, mt (hjson _).1 hword⟩
  · rw [hto fields hfields]
    simp [fields, data, toJson, itemsToJson, hone, hzero]
  · rw [hof data hdata]
    have hleast : ofInt (-2 ^ 63) = integer Int64.minValue := ofInt_toInt Int64.minValue
    have hint : ofInt 1 = integer 1 := ofInt_toInt 1
    simp only [fields, data, List.map_cons, List.map_nil, ofJson, itemsOfJson, hleast, hint]

end Value

end BlockTemplate
