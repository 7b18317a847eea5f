import BlockTemplate.Proofs.Calendar.PatternMeaning
import BlockTemplate.Proofs.Text.Runs

/-!
# Patterns and their translation

A pattern is read part by part from the left: text in brackets, the longest name, or a character.
The translation of a pattern is a row of pieces, each a character that stands for itself or a
directive of the table. Pieces are rendered one by one, so what stands before or behind a piece has
no part in how it is read.

Main statements: a row of pieces is always rendered, to the texts of its pieces (`render_written`);
the first name of the table that a pattern starts with is the longest (`longestName_iff`); what a
pattern is translated to and rendered as is what reading it gives (`format_eq_iff_reads`).
-/

namespace BlockTemplate.Calendar

/-- A part of a translated pattern: a character or a directive. -/
inductive Piece where
  | character (c : Char)
  | directive (d : Directive)
  deriving DecidableEq, Repr

namespace Piece

/-- A piece as it is written among directives. -/
def written : Piece → List Char
  | character c => literal [c]
  | directive d => d.spelling

/-- What a piece says about a moment. -/
def text (m : Moment) : Piece → List Char
  | character c => [c]
  | directive d => d.text m

end Piece

/-- The directives that are written. -/
def specifiers : List String :=
  ["%Y", "%y", "%B", "%b", "%m", "%-m", "%d", "%-d", "%A", "%a", "%H", "%-H", "%I", "%-I", "%M",
    "%-M", "%S", "%-S", "%p", "%P"]

/-- What a piece can be written as: a character, a doubled percent sign or a directive. -/
inductive Emitted : List Char → Prop
  | character {c : Char} (hc : c ≠ '%') : Emitted [c]
  | percent : Emitted ['%', '%']
  | specifier {s : String} (hs : s ∈ specifiers) : Emitted s.toList

theorem Piece.emitted_written (piece : Piece) : Emitted piece.written := by
  cases piece with
  | character c =>
    by_cases hc : c = '%'
    · subst hc
      exact .percent
    · simpa [written, literal, hc] using Emitted.character hc
  | directive d =>
    have hs : String.ofList d.spelling ∈ specifiers := by cases d <;> decide
    simpa [written] using Emitted.specifier hs

variable (m : Moment)

/-! ### Rendering of pieces -/

theorem render_percent (rest : List Char) :
    render m ('%' :: '%' :: rest) = (render m rest).map ('%' :: ·) := by
  rw [render]

theorem render_character {c : Char} (hc : c ≠ '%') (rest : List Char) :
    render m (c :: rest) = (render m rest).map (c :: ·) := by
  rw [render]
  · exact if_neg hc
  all_goals
    intros
    simp_all

theorem render_directive (d : Directive) (rest : List Char) :
    render m (d.spelling ++ rest) = (render m rest).map (d.text m ++ ·) := by
  have hletters := Directive.ofLetters?_letters d
  cases d <;>
    simp only [Directive.spelling, Directive.letters, List.cons_append, List.nil_append]
      at hletters ⊢ <;>
    rw [render] <;> simp [hletters]

/-- A piece is rendered alike before any rest. -/
theorem render_piece (piece : Piece) (rest : List Char) :
    render m (piece.written ++ rest) = (render m rest).map (piece.text m ++ ·) := by
  cases piece with
  | character c =>
    by_cases hc : c = '%'
    · subst hc
      exact render_percent m rest
    · simpa [Piece.written, Piece.text, literal, hc] using render_character m hc rest
  | directive d => exact render_directive m d rest

/-- No row of pieces has an unknown directive in it. -/
theorem render_written (pieces : List Piece) :
    render m (pieces.flatMap Piece.written) = some (pieces.flatMap (Piece.text m)) := by
  induction pieces with
  | nil => rw [List.flatMap_nil, render, List.flatMap_nil]
  | cons piece pieces ih =>
    rw [List.flatMap_cons, render_piece, ih, Option.map_some, List.flatMap_cons]

theorem written_characters (cs : List Char) :
    (cs.map Piece.character).flatMap Piece.written = literal cs := by
  induction cs with
  | nil => rfl
  | cons c cs ih =>
    rw [List.map_cons, List.flatMap_cons, ih]
    by_cases hc : c = '%' <;> simp [Piece.written, literal, hc]

theorem text_characters (cs : List Char) :
    (cs.map Piece.character).flatMap (Piece.text m) = cs := by
  induction cs with
  | nil => rfl
  | cons c cs ih =>
    rw [List.map_cons, List.flatMap_cons, ih]
    rfl

/-! ### The longest name -/

/-- No name of the table is longer than one before it. -/
theorem fieldNames_sorted :
    fieldNames.Pairwise fun earlier later => later.1.length ≤ earlier.1.length := by
  decide

theorem nodup_map_fst_fieldNames : (fieldNames.map Prod.fst).Nodup := by decide

/-- No name is empty, and none starts with a bracket. -/
theorem head_of_mem_fieldNames : ∀ entry ∈ fieldNames, ∃ c cs, entry.1 = c :: cs ∧ c ≠ '[' := by
  simp [fieldNames]

/-- The name that is taken is one the pattern starts with, and no such name is longer. -/
theorem longest_of_firstField? {pattern : List Char} {best : List Char × Field}
    (h : firstField? pattern = some best) :
    best ∈ fieldNames ∧ best.1 <+: pattern ∧
      ∀ entry ∈ fieldNames, entry.1 <+: pattern → entry.1.length ≤ best.1.length := by
  have hsorted := fieldNames_sorted.filter fun entry => entry.1.isPrefixOf pattern
  rw [firstField?, ← List.head?_filter] at h
  obtain ⟨others, hmatching⟩ := List.head?_eq_some_iff.1 h
  have hmem {entry : List Char × Field} :
      entry ∈ best :: others ↔ entry ∈ fieldNames ∧ entry.1 <+: pattern := by
    rw [← hmatching, List.mem_filter, List.isPrefixOf_iff_prefix]
  rw [hmatching, List.pairwise_cons] at hsorted
  obtain ⟨hbest, hstarts⟩ := hmem.1 (List.mem_cons_self)
  refine ⟨hbest, hstarts, ?_⟩
  intro entry hentry hprefix
  rcases List.mem_cons.1 (hmem.2 ⟨hentry, hprefix⟩) with rfl | hlater
  · exact Nat.le_refl _
  · exact hsorted.1 entry hlater

theorem firstField?_eq_none_iff {pattern : List Char} :
    firstField? pattern = none ↔ ∀ entry ∈ fieldNames, ¬entry.1 <+: pattern := by
  simp only [firstField?, List.find?_eq_none, List.isPrefixOf_iff_prefix]

/-- Two names of one length that a pattern starts with are the same, so the longest one is found. -/
theorem firstField?_of_longest {pattern name : List Char} {field : Field}
    (hmem : (name, field) ∈ fieldNames) (hstarts : name <+: pattern)
    (hlongest : ∀ entry ∈ fieldNames, entry.1 <+: pattern → entry.1.length ≤ name.length) :
    firstField? pattern = some (name, field) := by
  cases hfirst : firstField? pattern with
  | none => exact absurd hstarts (firstField?_eq_none_iff.1 hfirst _ hmem)
  | some best =>
    obtain ⟨hbest, hbestStarts, hbestLongest⟩ := longest_of_firstField? hfirst
    have hlength : best.1.length = name.length :=
      Nat.le_antisymm (hlongest _ hbest hbestStarts) (hbestLongest _ hmem hstarts)
    have hname : best.1 = name :=
      (List.prefix_of_prefix_length_le hbestStarts hstarts hlength.le).eq_of_length hlength
    rw [List.inj_on_of_nodup_map nodup_map_fst_fieldNames hbest hmem hname]

/-- A name that a pattern starts with, no such name being longer, and what it says. -/
structure LongestName (pattern : List Char) (name : String) (said : List Char) : Prop where
  mem : (name, said) ∈ meanings m
  starts : name.toList <+: pattern
  longest : ∀ other ∈ meanings m, other.1.toList <+: pattern → other.1.length ≤ name.length

variable {m} {pattern : List Char}

theorem longestName_iff {name : String} {said : List Char} :
    LongestName m pattern name said ↔
      ∃ field, firstField? pattern = some (name.toList, field) ∧ field.text m = said := by
  constructor
  · rintro ⟨hmem, hstarts, hlongest⟩
    obtain ⟨field, hfield, hsaid⟩ := mem_meanings_iff.1 hmem
    refine ⟨field, firstField?_of_longest hfield hstarts ?_, hsaid⟩
    intro entry hentry hprefix
    have hle := hlongest _ (mem_meanings_of_mem m entry hentry) (by simpa using hprefix)
    rwa [← String.length_toList, ← String.length_toList, String.toList_ofList] at hle
  · rintro ⟨field, hfirst, rfl⟩
    obtain ⟨hmem, hstarts, hlongest⟩ := longest_of_firstField? hfirst
    refine ⟨mem_meanings_iff.2 ⟨field, hmem, rfl⟩, hstarts, ?_⟩
    intro other hother hprefix
    obtain ⟨otherField, hfield⟩ := exists_field_of_mem hother
    have hle := hlongest _ hfield hprefix
    rwa [String.length_toList, String.length_toList] at hle

theorem forall_meanings_not_prefix_iff :
    (∀ entry ∈ meanings m, ¬entry.1.toList <+: pattern) ↔ firstField? pattern = none := by
  rw [firstField?_eq_none_iff]
  constructor
  · intro h entry hentry
    simpa using h _ (mem_meanings_of_mem m entry hentry)
  · intro h entry hentry
    obtain ⟨field, hfield⟩ := exists_field_of_mem hentry
    exact h _ hfield

/-! ### What a pattern says -/

variable (m) in
/-- What a pattern says about a moment, read from left to right. -/
inductive Reads : List Char → List Char → Prop
  | empty : Reads [] []
  /-- Text in brackets goes up to the first closing one and is copied. -/
  | bracketed {inner rest text : List Char} (inside : ']' ∉ inner) (tail : Reads rest text) :
      Reads ('[' :: (inner ++ ']' :: rest)) (inner ++ text)
  /-- A bracket that is not closed is copied with all behind it. -/
  | unclosed {rest : List Char} (unclosed : ']' ∉ rest) : Reads ('[' :: rest) ('[' :: rest)
  | named {name : String} {said rest text : List Char}
      (longest : LongestName m (name.toList ++ rest) name said) (tail : Reads rest text) :
      Reads (name.toList ++ rest) (said ++ text)
  | single {c : Char} {rest text : List Char} (hc : c ≠ '[')
      (unnamed : ∀ entry ∈ meanings m, ¬entry.1.toList <+: c :: rest) (tail : Reads rest text) :
      Reads (c :: rest) (c :: text)

/-- Every pattern says something. -/
theorem exists_reads (pattern : List Char) : ∃ text, Reads m pattern text := by
  cases pattern with
  | nil => exact ⟨[], .empty⟩
  | cons c rest =>
    by_cases hc : c = '['
    · subst hc
      by_cases hclosed : ']' ∈ rest
      · obtain ⟨inner, behind, hrest, inside⟩ := List.eq_append_cons_of_mem hclosed
        have hshorter : behind.length < ('[' :: rest).length := by
          rw [hrest, List.length_cons, List.length_append, List.length_cons]
          omega
        obtain ⟨text, htext⟩ := exists_reads behind
        rw [hrest]
        exact ⟨inner ++ text, .bracketed inside htext⟩
      · exact ⟨'[' :: rest, .unclosed hclosed⟩
    · cases hname : firstField? (c :: rest) with
      | none =>
        obtain ⟨text, htext⟩ := exists_reads rest
        exact ⟨c :: text, .single hc (forall_meanings_not_prefix_iff.2 hname) htext⟩
      | some best =>
        obtain ⟨name, field⟩ := best
        obtain ⟨name, rfl⟩ : ∃ s : String, name = s.toList := ⟨_, String.toList_ofList.symm⟩
        obtain ⟨hmem, ⟨behind, hbehind⟩, -⟩ := longest_of_firstField? hname
        obtain ⟨d, ds, hd, -⟩ := head_of_mem_fieldNames _ hmem
        have hshorter : behind.length < (c :: rest).length := by
          dsimp only at hd
          rw [← hbehind, hd, List.cons_append, List.length_cons, List.length_append]
          omega
        obtain ⟨text, htext⟩ := exists_reads behind
        rw [← hbehind] at hname ⊢
        exact ⟨field.text m ++ text, .named (longestName_iff.2 ⟨field, hname, rfl⟩) htext⟩
  termination_by pattern.length
  decreasing_by
  · exact hshorter
  · exact Nat.lt_succ_self rest.length
  · exact hshorter

/-! ### Translation part by part -/

section

variable (m) {rest : List Char}

theorem translate_bracketed {inner : List Char} (inside : ']' ∉ inner) :
    translate m ('[' :: (inner ++ ']' :: rest)) = literal inner ++ translate m rest := by
  have hinner := forall_ne_of_notMem inside
  have hends : EndsRun (· ≠ ']') (']' :: rest) := by simp [EndsRun]
  rw [translate, if_pos rfl, dropWhile_append_of_endsRun hinner hends,
    takeWhile_append_of_endsRun hinner hends]
  rfl

theorem translate_unclosed (unclosed : ']' ∉ rest) :
    translate m ('[' :: rest) = literal ('[' :: rest) := by
  rw [translate, if_pos rfl, List.dropWhile_eq_nil_iff.2 (forall_ne_of_notMem unclosed)]

theorem translate_named {name : List Char} {field : Field}
    (hname : firstField? (name ++ rest) = some (name, field)) :
    translate m (name ++ rest) = field.directives m ++ translate m rest := by
  obtain ⟨hmem, -⟩ := longest_of_firstField? hname
  obtain ⟨c, cs, hcs, hc⟩ := head_of_mem_fieldNames _ hmem
  dsimp only at hcs
  subst hcs
  rw [List.cons_append] at hname ⊢
  rw [translate, if_neg hc, hname]
  simp

theorem translate_single {c : Char} (hc : c ≠ '[') (hname : firstField? (c :: rest) = none) :
    translate m (c :: rest) = literal [c] ++ translate m rest := by
  rw [translate, if_neg hc, hname]

end

/-- A field as pieces: its directive, or the characters of the day with its ending. -/
def Field.pieces (m : Moment) : Field → List Piece
  | directive d => [.directive d]
  | ordinalDay => (ordinalText m.date.day).map .character

theorem Field.written_pieces (m : Moment) (field : Field) :
    (field.pieces m).flatMap Piece.written = field.directives m := by
  cases field with
  | directive d => exact List.append_nil _
  | ordinalDay => exact written_characters _

theorem Field.text_pieces (m : Moment) (field : Field) :
    (field.pieces m).flatMap (Piece.text m) = field.text m := by
  cases field with
  | directive d => exact List.append_nil _
  | ordinalDay => exact text_characters m _

/-- A pattern is translated to pieces that say what it says, part by part from the left. -/
theorem Reads.exists_pieces {text : List Char} (h : Reads m pattern text) :
    ∃ pieces : List Piece, translate m pattern = pieces.flatMap Piece.written ∧
      pieces.flatMap (Piece.text m) = text := by
  induction h with
  | empty => exact ⟨[], by rw [translate, List.flatMap_nil], List.flatMap_nil⟩
  | @bracketed inner rest text inside _ ih =>
    obtain ⟨pieces, hwritten, htext⟩ := ih
    refine ⟨inner.map .character ++ pieces, ?_, ?_⟩
    · rw [translate_bracketed m inside, List.flatMap_append, written_characters, hwritten]
    · rw [List.flatMap_append, text_characters, htext]
  | @unclosed rest unclosed =>
    refine ⟨('[' :: rest).map .character, ?_, text_characters m _⟩
    rw [translate_unclosed m unclosed, written_characters]
  | @named name said rest text longest _ ih =>
    obtain ⟨pieces, hwritten, htext⟩ := ih
    obtain ⟨field, hfirst, hsaid⟩ := longestName_iff.1 longest
    refine ⟨field.pieces m ++ pieces, ?_, ?_⟩
    · rw [translate_named m hfirst, List.flatMap_append, field.written_pieces, hwritten]
    · rw [List.flatMap_append, field.text_pieces, hsaid, htext]
  | @single c rest text hc unnamed _ ih =>
    obtain ⟨pieces, hwritten, htext⟩ := ih
    refine ⟨.character c :: pieces, ?_, ?_⟩
    · rw [translate_single m hc (forall_meanings_not_prefix_iff.1 unnamed), List.flatMap_cons,
        hwritten]
      rfl
    · rw [List.flatMap_cons, htext]
      rfl

/-- What is read is what the translation is rendered as. -/
theorem Reads.render_translate {text : List Char} (h : Reads m pattern text) :
    render m (translate m pattern) = some text := by
  obtain ⟨pieces, hwritten, htext⟩ := h.exists_pieces
  rw [hwritten, render_written, htext]

/-- Translating a pattern and rendering the translation says what the pattern says, and nothing
else. The translation is made of characters that stand for themselves, doubled percent signs and
directives of the table; it is always rendered, and literal text comes out as it is whatever pieces
stand around it. -/
theorem format_eq_iff_reads (m : Moment) (pattern : List Char) :
    (∃ parts : List (List Char), translate m pattern = parts.flatten ∧
        ∀ part ∈ parts, Emitted part) ∧
      render m (translate m pattern) = some (m.format pattern) ∧
      (∀ text, m.format pattern = text ↔ Reads m pattern text) ∧
      ∀ (cs : List Char) (before after : List Piece),
        render m (before.flatMap Piece.written ++ literal cs ++ after.flatMap Piece.written) =
          some (before.flatMap (Piece.text m) ++ cs ++ after.flatMap (Piece.text m)) := by
  obtain ⟨text, hreads⟩ := exists_reads (m := m) pattern
  obtain ⟨pieces, hwritten, -⟩ := hreads.exists_pieces
  have hformat {text : List Char} (h : Reads m pattern text) : m.format pattern = text := by
    rw [Moment.format, h.render_translate, Option.getD_some]
  refine ⟨⟨pieces.map Piece.written, ?_, ?_⟩, ?_, ?_, ?_⟩
  · rw [hwritten, List.flatMap_def]
  · intro part hpart
    obtain ⟨piece, -, rfl⟩ := List.mem_map.1 hpart
    exact piece.emitted_written
  · rw [hformat hreads, hreads.render_translate]
  · intro said
    constructor
    · rintro rfl
      rwa [hformat hreads]
    · exact hformat
  · intro cs before after
    have hrow := render_written m (before ++ cs.map .character ++ after)
    simpa only [List.flatMap_append, written_characters, text_characters] using hrow

/-- Every name, brackets with a bracket and a percent sign in them, a percent sign before a letter,
and a bracket that is not closed, at a leap second. -/
theorem format_eq_iff_reads_every_name :
    let m : Moment := ⟨⟨2024, 3, 9⟩, 15, 4, 59, 1500000000, 3600⟩
    let pattern := ("YYYY YY MMMM MMM MM M Do DD D dddd ddd HH H hh h mm m ss s A a " ++
      "[[100% D]] é%d [oops").toList
    let text := ("2024 24 March Mar 03 3 9th 09 9 Saturday Sat 15 15 03 3 04 4 60 60 PM pm " ++
      "[100% D] é%d [oops").toList
    translate m pattern = ("%Y %y %B %b %m %-m 9th %d %-d %A %a %H %-H %I %-I %M %-M %S %-S " ++
      "%p %P [100%% D] é%%d [oops").toList ∧
      m.format pattern = text ∧ Reads m pattern text := by
  intro m pattern text
  obtain ⟨-, -, hreads, -⟩ := format_eq_iff_reads m pattern
  have hformat : m.format pattern = text := by decide +kernel
  exact ⟨by decide +kernel, hformat, (hreads text).1 hformat⟩

end BlockTemplate.Calendar
