import BlockTemplate.Processor.Evaluation
import BlockTemplate.Properties

/-!
# What properties know

The entry of a name is the first field that has this name in any case. The properties of a JSON
object can be looked up in the JSON itself: what is selected there becomes a value, and a scalar
becomes its text.

Main statements: `get?_ofValue_object`, `lookup_ofJson`.
-/

namespace BlockTemplate

open Processor (Reference)

namespace Properties

variable {α β : Type}

/-- The first field that a name in any case stands for. -/
def first? (name : String) (fields : List (String × α)) : Option α :=
  (fields.find? fun f => Text.lowerString f.1 = Text.lowerString name).map (·.2)

theorem first?_map (g : α → β) (name : String) (fields : List (String × α)) :
    first? name (fields.map fun f => (f.1, g f.2)) = (first? name fields).map g := by
  rw [first?, first?, List.find?_map, Option.map_map, Option.map_map]
  rfl

/-- An added field is found under a key when it has the key in some case and no entry has it. -/
theorem find?_addEntry (key : String) (entries : List (String × Value)) (f : String × Value) :
    ((addEntry entries f).find? fun e => e.1 = key).map (·.2) =
      ((entries.find? fun e => e.1 = key).map (·.2)).or
        (if Text.lowerString f.1 = key then some f.2 else none) := by
  unfold addEntry
  by_cases htaken : (entries.any fun e => e.1 = Text.lowerString f.1) = true
  · rw [if_pos htaken]
    by_cases hkey : Text.lowerString f.1 = key
    · have hfound : (entries.find? fun e => e.1 = key).isSome = true := by
        rw [List.find?_isSome]
        exact hkey ▸ List.any_eq_true.1 htaken
      obtain ⟨e, he⟩ := Option.isSome_iff_exists.1 hfound
      simp [he]
    · simp [hkey]
  · rw [if_neg htaken, List.find?_append]
    cases entries.find? fun e => e.1 = key with
    | some e => simp
    | none => by_cases hkey : Text.lowerString f.1 = key <;> simp [hkey]

theorem find?_foldl_addEntry (key : String) (fields entries : List (String × Value)) :
    ((fields.foldl addEntry entries).find? fun e => e.1 = key).map (·.2) =
      ((entries.find? fun e => e.1 = key).map (·.2)).or
        ((fields.find? fun f => Text.lowerString f.1 = key).map (·.2)) := by
  induction fields generalizing entries with
  | nil => simp
  | cons f fields ih =>
      rw [List.foldl_cons, ih, find?_addEntry, Option.or_assoc, List.find?_cons]
      by_cases hkey : Text.lowerString f.1 = key
      · simp [hkey]
      · simp [hkey]

theorem get?_ofValue_object (fields : List (String × Value)) (name : String) :
    (ofValue (.object fields)).get? name = first? name fields := by
  simp [get?, ofValue, first?, find?_foldl_addEntry]

/-! ### Resolved values -/

theorem isNull_present (v : Value) : (present v).isNull = false := by
  cases v <;> rfl

theorem plainText_ofChars (cs : List Char) : (Value.ofChars cs).plainText = cs :=
  String.toList_ofList

/-- Where nothing else is asked for, a resolved value is written like the value itself. -/
theorem plainText_present (v : Value) : (present v).plainText = v.plainText := by
  cases v with
  | null | bool | integer | float => exact plainText_ofChars _
  | string | date | list | object => rfl

end Properties

/-! ### Looking up in JSON -/

theorem Value.fieldsOfJson_eq_map (fields : List (String × Json)) :
    Value.fieldsOfJson fields = fields.map fun f => (f.1, Value.ofJson f.2) := by
  induction fields with
  | nil => rfl
  | cons f fields ih => rw [Value.fieldsOfJson, ih, List.map_cons]

theorem Value.itemsOfJson_eq_map (items : List Json) :
    Value.itemsOfJson items = items.map Value.ofJson := by
  induction items with
  | nil => rfl
  | cons j items ih => rw [Value.itemsOfJson, ih, List.map_cons]

/-- One part of a JSON value: a member in any case, or an item at a position. -/
def Json.part? (specifier : String) : Json → Option Json
  | .object fields => Properties.first? specifier fields
  | .array items => (Properties.position? specifier.toList).bind (items[·]?)
  | _ => none

/-- What a reference selects among the members of an object. An empty specifier is none. -/
def Processor.Reference.select? (r : Reference) (fields : List (String × Json)) : Option Json :=
  match r.specifier with
  | none => Properties.first? r.name fields
  | some specifier =>
    if specifier.isEmpty then Properties.first? r.name fields
    else (Properties.first? r.name fields).bind (Json.part? specifier)

namespace Properties

theorem part?_ofJson (specifier : String) (j : Json) :
    part? specifier (Value.ofJson j) = (j.part? specifier).map Value.ofJson := by
  cases j with
  | object fields =>
      rw [Value.ofJson, Value.fieldsOfJson_eq_map]
      exact first?_map Value.ofJson specifier fields
  | array items =>
      rw [Value.ofJson, Value.itemsOfJson_eq_map]
      cases hposition : position? specifier.toList <;> simp [part?, Json.part?, hposition]
  | integer n =>
      rw [Value.ofJson, Value.ofInt]
      split <;> rfl
  | null | bool | float | string => rfl

/-- The properties of an object know what a reference selects, as a resolved value. -/
theorem lookup_ofJson (fields : List (String × Json)) (r : Reference) :
    (ofValue (.ofJson (.object fields))).lookup r.name r.specifier =
      (r.select? fields).map fun j => present (Value.ofJson j) := by
  have hget : (ofValue (.ofJson (.object fields))).get? r.name =
      (first? r.name fields).map Value.ofJson := by
    rw [Value.ofJson, get?_ofValue_object, Value.fieldsOfJson_eq_map, first?_map]
  rw [lookup, hget, Reference.select?]
  cases first? r.name fields with
  | none => cases r.specifier <;> simp
  | some j =>
      cases r.specifier with
      | none => rfl
      | some specifier =>
          by_cases hempty : specifier.isEmpty = true
          · simp [hempty]
          · cases hpart : j.part? specifier <;> simp [hempty, part?_ofJson, hpart]

end Properties

end BlockTemplate
