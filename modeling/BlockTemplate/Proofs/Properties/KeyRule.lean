import BlockTemplate.Proofs.Number.StrictInteger
import BlockTemplate.Proofs.Properties.Lookup
import BlockTemplate.Proofs.Text.ByteOrder
import BlockTemplate.Proofs.Text.LowerCase

/-!
# One rule for keys at both levels

The variables of an object and the members of one of them are found by the same rule: of all keys
that are the name in some case, the first one in the order of bytes counts. At the first level the
rule is carried out by collecting names, at the second by a search; both give the same.

Main statements: `first?_eq_some_iff`, `keyRule_ofValue`.
-/

namespace BlockTemplate

variable {α : Type}

theorem Fields.Sorted.eq_of_mem {fields : List (String × α)} (h : Sorted fields) {key : String}
    {v w : α} (hv : (key, v) ∈ fields) (hw : (key, w) ∈ fields) : v = w := by
  induction fields with
  | nil => cases hv
  | cons f rest ih =>
      obtain ⟨hf, hrest⟩ := List.pairwise_cons.1 h
      rcases List.mem_cons.1 hv with rfl | hvrest
      · rcases List.mem_cons.1 hw with hw | hwrest
        · exact (Prod.mk.inj hw).2.symm
        · exact absurd (hf (key, w) hwrest) (lt_irrefl key)
      · rcases List.mem_cons.1 hw with rfl | hwrest
        · exact absurd (hf (key, v) hvrest) (lt_irrefl key)
        · exact ih hrest hvrest hwrest

namespace Properties

/-- Of the keys that a name in any case stands for, the first one in the order of their bytes, with
its value. -/
structure IsLeastKey (fields : List (String × α)) (name key : String) (value : α) : Prop where
  mem : (key, value) ∈ fields
  same : Text.lowerString key = Text.lowerString name
  least : ∀ f ∈ fields, Text.lowerString f.1 = Text.lowerString name →
    Text.utf8 key ≤ Text.utf8 f.1

section First

variable {fields : List (String × α)} {name name' key : String} {value : α}

theorem first?_congr (h : Text.lowerString name = Text.lowerString name') :
    first? name fields = first? name' fields := by
  rw [first?, first?, h]

theorem first?_eq_none_iff :
    first? name fields = none ↔ ∀ f ∈ fields, Text.lowerString f.1 ≠ Text.lowerString name := by
  simp [first?]

/-- Where keys are in order, the field found first is the one with the least key. -/
theorem exists_isLeastKey (h : Fields.Sorted fields) (hfirst : first? name fields = some value) :
    ∃ key, IsLeastKey fields name key value := by
  obtain ⟨f, hfind, rfl⟩ := Option.map_eq_some_iff.1 hfirst
  obtain ⟨hsame, before, after, rfl, hbefore⟩ := List.find?_eq_some_iff_append.1 hfind
  refine ⟨f.1, by simp, by simpa using hsame, fun g hg hname => ?_⟩
  rw [Text.utf8_le_iff]
  rcases List.mem_append.1 hg with hg | hg
  · have hno := hbefore g hg
    simp [hname] at hno
  · obtain ⟨hafter, -⟩ := List.pairwise_cons.1 (List.pairwise_append.1 h).2.1
    rcases List.mem_cons.1 hg with rfl | hg
    · exact le_refl _
    · exact (hafter g hg).le

theorem IsLeastKey.first?_eq (h : Fields.Sorted fields)
    (hleast : IsLeastKey fields name key value) : first? name fields = some value := by
  cases hfirst : first? name fields with
  | none => exact absurd hleast.same (first?_eq_none_iff.1 hfirst _ hleast.mem)
  | some found =>
      obtain ⟨other, hother⟩ := exists_isLeastKey h hfirst
      have hle : key ≤ other := Text.utf8_le_iff.1 (hleast.least _ hother.mem hother.same)
      have hge : other ≤ key := Text.utf8_le_iff.1 (hother.least _ hleast.mem hleast.same)
      obtain rfl : key = other := le_antisymm hle hge
      rw [h.eq_of_mem hother.mem hleast.mem]

theorem first?_eq_some_iff (h : Fields.Sorted fields) :
    first? name fields = some value ↔ ∃ key, IsLeastKey fields name key value :=
  ⟨exists_isLeastKey h, fun ⟨_, hleast⟩ => hleast.first?_eq h⟩

end First

/-! ### Positions -/

/-- Texts that spell a position in a list: decimal digits, possibly after a plus sign. -/
inductive SpellsPosition : List Char → Nat → Prop
  | plain {digits : List Char} (h : Number.IsDigits digits) :
      SpellsPosition digits (Number.placeValue digits)
  | plus {digits : List Char} (h : Number.IsDigits digits) :
      SpellsPosition ('+' :: digits) (Number.placeValue digits)

theorem position?_eq_some_iff {cs : List Char} {n : Nat} :
    position? cs = some n ↔ SpellsPosition cs n := by
  have hread {digits : List Char} :
      (if digits ≠ [] ∧ digits.all Char.isDigit then some (Number.ofDigits digits) else none) =
          some n ↔ Number.IsDigits digits ∧ Number.placeValue digits = n := by
    rw [Number.ofDigits_eq_placeValue, Option.ite_none_right_eq_some, Option.some.injEq,
      List.all_eq_true, Number.isDigits_iff]
  unfold position?
  dsimp only
  split
  · next digits =>
    rw [hread]
    constructor
    · rintro ⟨hdigits, rfl⟩
      exact .plus hdigits
    · intro hspells
      cases hspells with
      | plain h => exact absurd (h.isDigit '+' List.mem_cons_self) (by decide)
      | plus h => exact ⟨h, rfl⟩
  · next hplus =>
    rw [hread]
    constructor
    · rintro ⟨hdigits, rfl⟩
      exact .plain hdigits
    · intro hspells
      cases hspells with
      | plain h => exact ⟨h, rfl⟩
      | plus h => exact absurd rfl (hplus _)

/-! ### Looking up -/

/-- Values that are written out when they are resolved. -/
def IsScalar : Value → Prop
  | .null | .bool _ | .integer _ | .float _ => True
  | _ => False

/-- What is found has been resolved. -/
theorem exists_present {p : Properties} {name : String} {specifier : Option String} {r : Value}
    (h : p.lookup name specifier = some r) : ∃ value, r = present value := by
  obtain ⟨value, -, hvalue⟩ := Option.bind_eq_some_iff.1 h
  cases specifier with
  | none => exact ⟨value, (Option.some.inj hvalue).symm⟩
  | some s =>
      dsimp only at hvalue
      split at hvalue
      · exact ⟨value, (Option.some.inj hvalue).symm⟩
      · obtain ⟨part, -, hpart⟩ := Option.bind_eq_some_iff.1 hvalue
        exact ⟨part, (Option.some.inj hpart).symm⟩

theorem not_isScalar_present (v : Value) : ¬IsScalar (present v) := by
  cases v <;> exact id

section Lookup

variable {fields : List (String × Value)} {name s : String}

theorem lookup_none (fields : List (String × Value)) (name : String) :
    (ofValue (.object fields)).lookup name none = (first? name fields).map present := by
  rw [lookup, get?_ofValue_object]
  cases first? name fields <;> rfl

theorem lookup_empty (p : Properties) (name : String) :
    p.lookup name (some "") = p.lookup name none := rfl

theorem lookup_specifier (hs : s ≠ "") (fields : List (String × Value)) (name : String) :
    (ofValue (.object fields)).lookup name (some s) =
      ((first? name fields).bind (part? s)).map present := by
  have hempty : s.isEmpty = false := by simpa using hs
  rw [lookup, get?_ofValue_object]
  cases hfirst : first? name fields with
  | none => rfl
  | some v => cases hpart : part? s v <;> simp [hempty, hpart]

/-- A member of an object is looked up like a variable of it. -/
theorem lookup_member (hs : s ≠ "") {inner : List (String × Value)}
    (hfirst : first? name fields = some (.object inner)) :
    (ofValue (.object fields)).lookup name (some s) = (ofValue (.object inner)).lookup s none := by
  rw [lookup_specifier hs, hfirst, lookup_none]
  rfl

theorem lookup_item (hs : s ≠ "") {items : List Value}
    (hfirst : first? name fields = some (.list items)) (r : Value) :
    (ofValue (.object fields)).lookup name (some s) = some r ↔
      ∃ n item, SpellsPosition s.toList n ∧ items[n]? = some item ∧ r = present item := by
  simp only [lookup_specifier hs, hfirst, Option.bind_some, part?, Option.map_eq_some_iff,
    Option.bind_eq_some_iff, position?_eq_some_iff]
  constructor
  · rintro ⟨item, ⟨n, hn, hitem⟩, rfl⟩
    exact ⟨n, item, hn, hitem, rfl⟩
  · rintro ⟨n, item, hn, hitem, rfl⟩
    exact ⟨item, ⟨n, hn, hitem⟩, rfl⟩

end Lookup

/-- What is found among the fields of an object, by a name and a specifier. -/
structure KeyRule (p : Properties) (fields : List (String × Value)) : Prop where
  /-- An empty specifier is none. -/
  empty_specifier : ∀ name, p.lookup name (some "") = p.lookup name none
  /-- A name alone finds the value of the least key that it stands for. -/
  named : ∀ name r, p.lookup name none = some r ↔
    ∃ key value, IsLeastKey fields name key value ∧ r = present value
  unnamed : ∀ name, p.lookup name none = none ↔
    ∀ f ∈ fields, Text.lowerString f.1 ≠ Text.lowerString name
  name_case : ∀ name name' specifier, Text.lowerString name = Text.lowerString name' →
    p.lookup name specifier = p.lookup name' specifier
  specifier_case : ∀ name key inner s s', IsLeastKey fields name key (.object inner) →
    Text.lowerString s = Text.lowerString s' → p.lookup name (some s) = p.lookup name (some s')
  /-- A specifier finds in an object what a name finds among the fields of that object. -/
  member : ∀ name key inner s, IsLeastKey fields name key (.object inner) → s ≠ "" →
    p.lookup name (some s) = (ofValue (.object inner)).lookup s none
  item : ∀ name key items s, IsLeastKey fields name key (.list items) → s ≠ "" →
    ∀ r, p.lookup name (some s) = some r ↔
      ∃ n item, SpellsPosition s.toList n ∧ items[n]? = some item ∧ r = present item
  /-- Other values have no parts. -/
  partless : ∀ name key value s, IsLeastKey fields name key value →
    (∀ inner, value ≠ .object inner) → (∀ items, value ≠ .list items) → s ≠ "" →
    p.lookup name (some s) = none
  not_scalar : ∀ name specifier r, p.lookup name specifier = some r → ¬IsScalar r

/-- The variables of an object are found by one rule for keys, and so are the members of a variable:
with a specifier they are what the variable by itself would give for that name. -/
theorem keyRule_ofValue {fields : List (String × Value)} (h : Fields.Sorted fields) :
    KeyRule (ofValue (.object fields)) fields ∧
      ∀ key inner s, s ≠ "" →
        (ofValue (.object [(key, .object inner)])).lookup key (some s) =
          (ofValue (.object inner)).lookup s none := by
  refine ⟨?_, fun key inner s hs => lookup_member hs (by simp [first?])⟩
  constructor
  case empty_specifier => exact lookup_empty _
  case named =>
    intro name r
    simp only [lookup_none, Option.map_eq_some_iff, first?_eq_some_iff h]
    constructor
    · rintro ⟨value, ⟨key, hleast⟩, rfl⟩
      exact ⟨key, value, hleast, rfl⟩
    · rintro ⟨key, value, hleast, rfl⟩
      exact ⟨value, ⟨key, hleast⟩, rfl⟩
  case unnamed =>
    intro name
    rw [lookup_none, Option.map_eq_none_iff, first?_eq_none_iff]
  case name_case =>
    intro name name' specifier hname
    rw [lookup, lookup, get?_ofValue_object, get?_ofValue_object, first?_congr hname]
  case specifier_case =>
    intro name key inner s s' hleast hlower
    by_cases hs : s = ""
    · have hs' : s' = "" := by
        rw [← Text.lowerString_eq_empty_iff, ← hlower, Text.lowerString_eq_empty_iff, hs]
      rw [hs, hs']
    · have hs' : s' ≠ "" := by
        rw [ne_eq, ← Text.lowerString_eq_empty_iff, ← hlower, Text.lowerString_eq_empty_iff]
        exact hs
      rw [lookup_member hs (hleast.first?_eq h), lookup_member hs' (hleast.first?_eq h),
        lookup_none, lookup_none, first?_congr hlower]
  case member => exact fun name key inner s hleast hs => lookup_member hs (hleast.first?_eq h)
  case item => exact fun name key items s hleast hs => lookup_item hs (hleast.first?_eq h)
  case partless =>
    intro name key value s hleast hobject hlist hs
    rw [lookup_specifier hs, hleast.first?_eq h, Option.bind_some]
    cases value with
    | object inner => exact absurd rfl (hobject inner)
    | list items => exact absurd rfl (hlist items)
    | null | bool | integer | float | string | date => rfl
  case not_scalar =>
    intro name specifier r hr
    obtain ⟨value, rfl⟩ := exists_present hr
    exact not_isScalar_present value

/-- Keys that differ in case at both levels, one of them beyond ASCII, with a list between them. -/
theorem keyRule_ofValue_of_colliding_keys :
    let inner : List (String × Value) := [("NOTE", .null), ("note", .bool true)]
    let fields : List (String × Value) :=
      [("Box", .list [.integer 7, .string "x"]), ("box", .null), ("Ä", .object inner),
        ("ä", .bool false)]
    Fields.Sorted fields ∧ IsLeastKey fields "ä" "Ä" (.object inner) ∧
      IsLeastKey fields "BOX" "Box" (.list [.integer 7, .string "x"]) ∧
      SpellsPosition "+00".toList 0 ∧ "Note" ≠ "" ∧ "+00" ≠ "" ∧
      (ofValue (.object fields)).lookup "ä" (some "Note") = some (.string "") ∧
      (ofValue (.object fields)).lookup "BOX" (some "+00") = some (.string "7") := by
  intro inner fields
  have hsorted : Fields.Sorted fields := by
    unfold Fields.Sorted fields
    decide +kernel
  have hinner : Fields.Sorted inner := by
    unfold Fields.Sorted inner
    decide +kernel
  have hnote : IsLeastKey inner "Note" "NOTE" .null :=
    ⟨List.mem_cons_self, by decide +kernel, by decide +kernel⟩
  have hobject : IsLeastKey fields "ä" "Ä" (.object inner) :=
    ⟨by simp [fields], by decide +kernel, by decide +kernel⟩
  have hlist : IsLeastKey fields "BOX" "Box" (.list [.integer 7, .string "x"]) :=
    ⟨by simp [fields], by decide +kernel, by decide +kernel⟩
  have hposition : SpellsPosition "+00".toList 0 := position?_eq_some_iff.1 (by decide +kernel)
  obtain ⟨hrule, -⟩ := keyRule_ofValue hsorted
  obtain ⟨hmembers, -⟩ := keyRule_ofValue hinner
  refine ⟨hsorted, hobject, hlist, hposition, by decide, by decide, ?_, ?_⟩
  · rw [hrule.member _ _ _ _ hobject (by decide)]
    exact (hmembers.named _ _).2 ⟨"NOTE", .null, hnote, rfl⟩
  · exact (hrule.item _ _ _ _ hlist (by decide) _).2 ⟨0, .integer 7, hposition, rfl, by cbv⟩

end Properties

end BlockTemplate
