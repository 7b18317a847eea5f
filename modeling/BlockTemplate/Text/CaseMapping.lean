import BlockTemplate.Text.CaseTable
/-!
# Upper and lower case

Full case mappings: a character may become several. The only one that looks at its neighbours is
the capital sigma, which has a form of its own at the end of a word.

Main statement: on ASCII the mappings move letters by 32 and keep everything else.
-/

namespace BlockTemplate.Text

/-- Where the ranges move a character, if they do. -/
def shift? (ranges : List CaseRange) (n : Nat) : Option Char :=
  (ranges.find? fun r => r.first ≤ n && n ≤ r.last && (n - r.first) % r.step = 0).map fun r =>
    Char.ofNat ((n : Int) + r.shift).toNat

/-- The lower case form of a character on its own. -/
def lowerChar (c : Char) : List Char :=
  if c.toNat < 128 then [c.toLower]
  else if c.toNat = 0x130 then ['i', '\u0307']
  else [(shift? lowerRanges c.toNat).getD c]

/-- The upper case form of a character. -/
def upperChar (c : Char) : List Char :=
  if c.toNat < 128 then [c.toUpper]
  else
    match upperExpansions.find? fun e => e.1 = c.toNat with
    | some e => e.2.map Char.ofNat
    | none => [(shift? upperRanges c.toNat).getD c]

/-- Characters that have a case. -/
def isCased (c : Char) : Bool := if c.toNat < 128 then c.isAlpha else inRanges casedRanges c.toNat

/-- Characters passed over when the neighbours of a letter are asked for. -/
def isCaseIgnorable (c : Char) : Bool :=
  if c.toNat < 128 then c = '\'' || c = '.' || c = ':' || c = '^' || c = '\x60'
  else inRanges caseIgnorableRanges c.toNat

/-- Whether the first character that counts has a case. -/
def startsCased (cs : List Char) : Bool :=
  match cs.dropWhile isCaseIgnorable with
  | [] => false
  | c :: _ => isCased c

/-- The lower case form of a capital sigma between the text before it, last character first, and
the text after it: the final form after a letter that no letter follows. -/
def lowerSigma (before after : List Char) : Char :=
  if startsCased before && !startsCased after then 'ς' else 'σ'

/-- The lower case form of a text; `before` is what stands before it, last character first. -/
def lowerFrom (before : List Char) : List Char → List Char
  | [] => []
  | c :: cs =>
    if c = 'Σ' then lowerSigma before cs :: lowerFrom (c :: before) cs
    else lowerChar c ++ lowerFrom (c :: before) cs

/-- The lower case form of a text. -/
def lower (cs : List Char) : List Char := lowerFrom [] cs

/-- The upper case form of a text. -/
def upper (cs : List Char) : List Char := cs.flatMap upperChar

/-- The lower case form of a string. -/
def lowerString (s : String) : String := String.ofList (lower s.toList)

theorem lowerChar_ascii {c : Char} (h : c.toNat < 128) : lowerChar c = [c.toLower] := by
  simp [lowerChar, h]

theorem upperChar_ascii {c : Char} (h : c.toNat < 128) : upperChar c = [c.toUpper] := by
  simp [upperChar, h]

theorem lowerFrom_ascii {before cs : List Char} (h : ∀ c ∈ cs, c.toNat < 128) :
    lowerFrom before cs = cs.map Char.toLower := by
  induction cs generalizing before with
  | nil => rfl
  | cons c cs ih =>
    have hc : c.toNat < 128 := h c List.mem_cons_self
    have hs : c ≠ 'Σ' := fun he => by rw [he] at hc; exact absurd hc (by decide)
    simp [lowerFrom, hs, lowerChar_ascii hc, ih fun d hd => h d (List.mem_cons_of_mem _ hd)]

theorem lower_ascii {cs : List Char} (h : ∀ c ∈ cs, c.toNat < 128) :
    lower cs = cs.map Char.toLower := lowerFrom_ascii h

theorem upper_ascii {cs : List Char} (h : ∀ c ∈ cs, c.toNat < 128) :
    upper cs = cs.map Char.toUpper := by
  induction cs with
  | nil => rfl
  | cons c cs ih =>
    simp only [upper, List.flatMap_cons, List.map_cons] at *
    simp [upperChar_ascii (h c List.mem_cons_self), ih fun d hd => h d (List.mem_cons_of_mem _ hd)]

end BlockTemplate.Text
