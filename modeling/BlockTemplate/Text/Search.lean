/-!
# Finding a part of a text

Main statements: cutting a text before the first occurrence of a part loses nothing
(`breakOn_append`); a part occurs in a text exactly if it is an infix of it
(`contains_iff_infix`).
-/

namespace BlockTemplate.Text

/-- Splits a text before the first occurrence of a part. -/
def breakOn (part : List Char) : List Char → List Char × List Char
  | [] => ([], [])
  | c :: cs =>
    if part.isPrefixOf (c :: cs) then ([], c :: cs)
    else
      let parts := breakOn part cs
      (c :: parts.1, parts.2)

/-- Whether a part occurs in a text. -/
def contains (part : List Char) : List Char → Bool
  | [] => part.isEmpty
  | c :: cs => part.isPrefixOf (c :: cs) || contains part cs

/-- A text with the first occurrence of a character replaced. -/
def replaceFirst (c : Char) (replacement : List Char) : List Char → List Char
  | [] => []
  | d :: ds => if d = c then replacement ++ ds else d :: replaceFirst c replacement ds

/-- Whether a text ends with a part. -/
def endsWith (part cs : List Char) : Bool := part.isSuffixOf cs

theorem breakOn_append (part cs : List Char) :
    (breakOn part cs).1 ++ (breakOn part cs).2 = cs := by
  induction cs with
  | nil => rfl
  | cons c cs ih =>
    unfold breakOn
    split
    · rfl
    · simpa using ih

theorem contains_iff_infix {part cs : List Char} : contains part cs = true ↔ part <:+: cs := by
  induction cs with
  | nil => rw [contains, List.isEmpty_iff, List.infix_nil]
  | cons c cs ih =>
    rw [contains, Bool.or_eq_true, List.isPrefixOf_iff_prefix, ih, List.infix_cons_iff]

theorem endsWith_iff_suffix {part cs : List Char} : endsWith part cs = true ↔ part <:+ cs :=
  List.isSuffixOf_iff_suffix

end BlockTemplate.Text
