/-!
# Fields in key order

The members of an object are a list of key and value, ordered by key. Keys are compared character
by character, which is also the order of their UTF-8 bytes.

Main statement: building fields by insertion keeps the keys strictly ordered (`sorted_ofList`).
-/

namespace BlockTemplate.Fields

variable {α : Type}

/-- Keys in strictly increasing order. -/
def Sorted (fields : List (String × α)) : Prop :=
  fields.Pairwise fun a b => a.1 < b.1

/-- Sets the value of a key. -/
def insert (key : String) (value : α) : List (String × α) → List (String × α)
  | [] => [(key, value)]
  | (k, v) :: rest =>
    if key < k then (key, value) :: (k, v) :: rest
    else if key = k then (key, value) :: rest
    else (k, v) :: insert key value rest

/-- Fields from pairs in any order; the last value of a key stays. -/
def ofList (pairs : List (String × α)) : List (String × α) :=
  pairs.foldl (fun fields p => insert p.1 p.2 fields) []

/-- The value of a key. -/
def get? (key : String) (fields : List (String × α)) : Option α :=
  (fields.find? fun p => p.1 = key).map (·.2)

theorem mem_insert {key : String} {value : α} {fields : List (String × α)} {p : String × α}
    (h : p ∈ insert key value fields) : p = (key, value) ∨ p ∈ fields := by
  induction fields with
  | nil => simpa [insert] using h
  | cons q rest ih =>
    unfold insert at h
    split at h
    · simpa using h
    · split at h
      · rcases List.mem_cons.1 h with h | h
        · exact .inl h
        · exact .inr (List.mem_cons_of_mem _ h)
      · rcases List.mem_cons.1 h with h | h
        · exact .inr (h ▸ List.mem_cons_self)
        · rcases ih h with h | h
          · exact .inl h
          · exact .inr (List.mem_cons_of_mem _ h)

theorem sorted_insert {key : String} {value : α} {fields : List (String × α)}
    (h : Sorted fields) : Sorted (insert key value fields) := by
  induction fields with
  | nil => simp [insert, Sorted]
  | cons q rest ih =>
    obtain ⟨hq, hr⟩ := List.pairwise_cons.1 h
    unfold insert
    split
    · next hlt =>
      refine List.pairwise_cons.2 ⟨fun p hp => ?_, h⟩
      rcases List.mem_cons.1 hp with rfl | hp
      · exact hlt
      · exact String.lt_trans hlt (hq p hp)
    · next hnlt =>
      split
      · next heq => exact List.pairwise_cons.2 ⟨fun p hp => by simpa [heq] using hq p hp, hr⟩
      · next hne =>
        refine List.pairwise_cons.2 ⟨fun p hp => ?_, ih hr⟩
        rcases mem_insert hp with rfl | hp
        · exact Std.lt_of_le_of_ne (String.not_lt.1 hnlt) (Ne.symm hne)
        · exact hq p hp

theorem sorted_foldl_insert {fields : List (String × α)} (h : Sorted fields)
    (pairs : List (String × α)) :
    Sorted (pairs.foldl (fun fields p => insert p.1 p.2 fields) fields) := by
  induction pairs generalizing fields with
  | nil => exact h
  | cons p rest ih => exact ih (sorted_insert h)

theorem sorted_ofList (pairs : List (String × α)) : Sorted (ofList pairs) :=
  sorted_foldl_insert List.Pairwise.nil pairs

end BlockTemplate.Fields
