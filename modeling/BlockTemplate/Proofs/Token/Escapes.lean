import BlockTemplate.Token.Scanner
import Mathlib

/-!
# Escapes of a quoted text

A quoted text is read from the left in pieces: a backslash belongs to the character after it, and
any other character stands for itself. Two loops go over such a text, one that looks for the closing
quote and one that replaces the escapes. What each comes to is told from the pieces.

## Implementation notes

Put together again, the pieces are the text (`flatMap_written`). A quote is never a backslash, which
is all that the statements need to know of it.

Main statements: where a quoted text ends (`quotedBody?_eq_some_iff`, `quotedBody?_eq_none_iff`),
which texts have a translation (`exists_translate_eq_ok_iff`), and which escape is refused
(`translate_eq_error_iff`).
-/

namespace BlockTemplate

/-! ### Lists of computations that may fail -/

section

variable {α β ε : Type} {f : α → Except ε β} {xs : List α}

theorem exists_mapM_eq_ok_iff : (∃ ys, xs.mapM f = .ok ys) ↔ ∀ x ∈ xs, ∃ y, f x = .ok y := by
  induction xs with
  | nil => exact iff_of_true ⟨[], rfl⟩ (List.forall_mem_nil _)
  | cons x xs ih =>
      rw [List.mapM_cons, List.forall_mem_cons, ← ih]
      cases hx : f x with
      | error e => simp [bind, Except.bind]
      | ok y => cases hxs : xs.mapM f <;> simp [bind, Except.bind, pure, Except.pure]

/-- The first element that fails decides the error. -/
theorem mapM_eq_error_iff {e : ε} : xs.mapM f = .error e ↔
    ∃ before x after, xs = before ++ x :: after ∧ (∀ y ∈ before, ∃ b, f y = .ok b) ∧
      f x = .error e := by
  constructor
  · intro h
    induction xs with
    | nil => cases h
    | cons x xs ih =>
        rw [List.mapM_cons] at h
        cases hx : f x with
        | error e' =>
            obtain rfl : e' = e := by simpa [hx, bind, Except.bind] using h
            exact ⟨[], x, xs, rfl, List.forall_mem_nil _, hx⟩
        | ok b =>
            have hxs : xs.mapM f = .error e := by
              cases hxs : xs.mapM f <;> simp_all [bind, Except.bind, pure, Except.pure]
            obtain ⟨before, y, after, rfl, hbefore, hy⟩ := ih hxs
            exact ⟨x :: before, y, after, rfl, List.forall_mem_cons.2 ⟨⟨b, hx⟩, hbefore⟩, hy⟩
  · rintro ⟨before, x, after, rfl, hbefore, hx⟩
    obtain ⟨bs, hbs⟩ := exists_mapM_eq_ok_iff.2 hbefore
    simp [List.mapM_append, List.mapM_cons, hbs, hx, bind, Except.bind]

end

namespace Escape

/-! ### Pieces -/

/-- A piece of a quoted text. -/
inductive Piece where
  /-- A character that stands for itself. -/
  | plain (c : Char)
  /-- A backslash and the character that it is paired with. -/
  | pair (partner : Char)
  /-- A backslash at the end of the text, without a partner. -/
  | loose
  deriving DecidableEq, Repr

/-- The pieces of a text, read from the left. -/
def pieces : List Char → List Piece
  | [] => []
  | [c] => if c = '\\' then [.loose] else [.plain c]
  | c :: d :: rest =>
    if c = '\\' then .pair d :: pieces rest
    else .plain c :: pieces (d :: rest)

/-- A piece as it stands in a text. -/
def Piece.written : Piece → List Char
  | plain c => [c]
  | pair partner => ['\\', partner]
  | loose => ['\\']

theorem pieces_cons {c : Char} (h : c ≠ '\\') (cs : List Char) :
    pieces (c :: cs) = .plain c :: pieces cs := by
  cases cs <;> simp [pieces, h]

theorem pieces_pair (partner : Char) (cs : List Char) :
    pieces ('\\' :: partner :: cs) = .pair partner :: pieces cs := by
  simp [pieces]

theorem flatMap_written (cs : List Char) : (pieces cs).flatMap Piece.written = cs := by
  fun_induction pieces cs <;> simp_all [Piece.written]

/-! ### The closing quote -/

section

variable {mark : Char} {cs inner rest : List Char}

/-- A quoted text ends at its first quote that no backslash is paired with. -/
theorem quotedBody?_eq_some_iff (hmark : mark ≠ '\\') :
    quotedBody? mark cs = some (inner, rest) ↔
      cs = inner ++ mark :: rest ∧ .plain mark ∉ pieces inner ∧ .loose ∉ pieces inner := by
  constructor
  · intro h
    refine ⟨quotedBody?_eq_some h, ?_⟩
    fun_induction quotedBody? mark cs generalizing inner rest with
    | case1 => cases h
    | case2 | case4 =>
        obtain ⟨rfl, -⟩ := by simpa using h
        simp [pieces]
    | case3 => cases h
    | case5 d tail _ ih =>
        obtain ⟨⟨b, r⟩, hb, he⟩ := Option.map_eq_some_iff.1 h
        obtain ⟨rfl, rfl⟩ := Prod.mk.inj he
        simpa [pieces_pair] using ih hb
    | case6 c d tail hc hesc ih =>
        obtain ⟨⟨b, r⟩, hb, he⟩ := Option.map_eq_some_iff.1 h
        obtain ⟨rfl, rfl⟩ := Prod.mk.inj he
        simpa [pieces_cons hesc, Ne.symm hc] using ih hb
  · rintro ⟨rfl, hmark', hloose⟩
    fun_induction pieces inner with
    | case1 => cases rest <;> simp [quotedBody?]
    | case2 => simp at hloose
    | case3 c hesc =>
        have hc : c ≠ mark := by simpa [eq_comm] using hmark'
        cases rest <;> simp [quotedBody?, hc, hesc]
    | case4 d tail ih =>
        have htail := ih (by simpa using hmark') (by simpa using hloose)
        simp [quotedBody?, hmark.symm, htail]
    | case5 c d tail hesc ih =>
        have hc : c ≠ mark ∧ .plain mark ∉ pieces (d :: tail) := by
          simpa [eq_comm] using hmark'
        have htail := ih hc.2 (by simpa using hloose)
        rw [List.cons_append] at htail
        simp [quotedBody?, hc.1, hesc, htail]

/-- Where all quotes are paired with a backslash, a quoted text does not end. -/
theorem quotedBody?_eq_none_iff (hmark : mark ≠ '\\') :
    quotedBody? mark cs = none ↔ .plain mark ∉ pieces cs := by
  fun_induction quotedBody? mark cs with
  | case1 => simp [pieces]
  | case2 => simp [pieces, hmark]
  | case3 c hc => by_cases hesc : c = '\\' <;> simp [pieces, hesc, Ne.symm hc]
  | case4 d tail => simp [pieces_cons hmark]
  | case5 d tail _ ih => simp [pieces_pair, ih]
  | case6 c d tail hc hesc ih => simp [pieces_cons hesc, Ne.symm hc, ih]

/-- What stands behind its closing quote does not matter to a quoted text. -/
theorem quotedBody?_of_quotedBody? (hmark : mark ≠ '\\')
    (h : quotedBody? mark cs = some (inner, rest)) (rest' : List Char) :
    quotedBody? mark (inner ++ mark :: rest') = some (inner, rest') :=
  (quotedBody?_eq_some_iff hmark).2 ⟨rfl, ((quotedBody?_eq_some_iff hmark).1 h).2⟩

end

/-! ### Translation -/

/-- The characters that a backslash may be paired with. -/
def partners : List Char := ['\\', '\'', '"', 'n', 'r', 't', 'b']

theorem meaning?_eq_none_iff {c : Char} : meaning? c = none ↔ c ∉ partners := by
  unfold meaning?
  repeat' split
  all_goals simp_all [partners]

namespace Piece

/-- What a piece stands for. -/
def read : Piece → Except LexicalError Char
  | plain c => .ok c
  | pair partner =>
    match meaning? partner with
    | none => .error (.unsupportedEscape partner)
    | some c => .ok c
  | loose => .error .interruptedEscape

/-- Characters, and backslashes with a partner that gives them a meaning. -/
def Supported (p : Piece) : Prop := p ≠ .loose ∧ ∀ c, p = .pair c → c ∈ partners

theorem exists_read_eq_ok_iff {p : Piece} : (∃ c, p.read = .ok c) ↔ p.Supported := by
  cases p with
  | plain c => simp [read, Supported]
  | loose => simp [read, Supported]
  | pair partner =>
      by_cases h : partner ∈ partners
      · obtain ⟨c, hc⟩ := Option.ne_none_iff_exists'.1 (mt meaning?_eq_none_iff.1 (not_not.2 h))
        simp [read, Supported, hc, h]
      · simp [read, Supported, meaning?_eq_none_iff.2 h, h]

theorem read_eq_error_iff {p : Piece} {e : LexicalError} : p.read = .error e ↔
    p = .loose ∧ e = .interruptedEscape ∨
      ∃ c ∉ partners, p = .pair c ∧ e = .unsupportedEscape c := by
  cases p with
  | plain c => simp [read]
  | loose => simp [read, eq_comm]
  | pair partner =>
      cases h : meaning? partner with
      | none =>
          have hpartner := meaning?_eq_none_iff.1 h
          simp [read, h, hpartner, eq_comm]
      | some d =>
          have hpartner : partner ∈ partners := by
            by_contra hnot
            simp [meaning?_eq_none_iff.2 hnot] at h
          simp [read, h, hpartner]

end Piece

/-- Translation replaces piece by piece. -/
theorem translate_eq_mapM (cs : List Char) : translate cs = (pieces cs).mapM Piece.read := by
  fun_induction pieces cs with
  | case1 => rfl
  | case2 => rfl
  | case3 c hc =>
      rw [translate_cons hc]
      rfl
  | case4 d rest ih =>
      rw [translate, if_pos rfl, List.mapM_cons, ih]
      cases hd : meaning? d with
      | none => simp [Piece.read, hd, bind, Except.bind]
      | some c => cases (pieces rest).mapM Piece.read <;> simp [Piece.read, hd] <;> rfl
  | case5 c d rest hc ih =>
      rw [translate_cons hc, List.mapM_cons, ih]
      cases (pieces (d :: rest)).mapM Piece.read <;> rfl

/-- A text has a translation when every backslash in it has a partner with a meaning. -/
theorem exists_translate_eq_ok_iff {cs : List Char} :
    (∃ value, translate cs = .ok value) ↔ ∀ p ∈ pieces cs, p.Supported := by
  rw [translate_eq_mapM, exists_mapM_eq_ok_iff]
  exact forall₂_congr fun p _ => Piece.exists_read_eq_ok_iff

theorem forall_supported_iff {cs : List Char} : (∀ p ∈ pieces cs, p.Supported) ↔
    .loose ∉ pieces cs ∧ ∀ c, .pair c ∈ pieces cs → c ∈ partners := by
  constructor
  · intro h
    exact ⟨fun hloose => (h _ hloose).1 rfl, fun c hc => (h _ hc).2 c rfl⟩
  · rintro ⟨hloose, hpairs⟩ p hp
    constructor
    · rintro rfl
      exact hloose hp
    · rintro c rfl
      exact hpairs c hp

/-- The first escape without a meaning is refused. -/
theorem translate_eq_error_iff {cs : List Char} (h : .loose ∉ pieces cs) {e : LexicalError} :
    translate cs = .error e ↔ ∃ c before after, e = .unsupportedEscape c ∧ c ∉ partners ∧
      pieces cs = before ++ .pair c :: after ∧ ∀ p ∈ before, p.Supported := by
  rw [translate_eq_mapM, mapM_eq_error_iff]
  simp only [Piece.read_eq_error_iff, Piece.exists_read_eq_ok_iff]
  constructor
  · rintro ⟨before, p, after, hpieces, hbefore, ⟨rfl, -⟩ | ⟨c, hc, rfl, rfl⟩⟩
    · simp [hpieces] at h
    · exact ⟨c, before, after, rfl, hc, hpieces, hbefore⟩
  · rintro ⟨c, before, after, rfl, hc, hpieces, hbefore⟩
    exact ⟨before, .pair c, after, hpieces, hbefore, Or.inr ⟨c, hc, rfl, rfl⟩⟩

theorem translate_of_notMem {cs : List Char} (h : '\\' ∉ cs) : translate cs = .ok cs := by
  induction cs with
  | nil => rfl
  | cons c cs ih =>
      obtain ⟨hc, hcs⟩ : '\\' ≠ c ∧ '\\' ∉ cs := by simpa using h
      rw [translate_cons hc.symm, ih hcs]
      rfl

/-- Translation that does not go through a text without backslashes. -/
def translateMarked (cs : List Char) : Except LexicalError (List Char) :=
  if '\\' ∈ cs then translate cs else .ok cs

theorem translateMarked_eq_translate (cs : List Char) : translateMarked cs = translate cs := by
  unfold translateMarked
  split
  · rfl
  · next h => exact (translate_of_notMem h).symm

/-! ### Text between quotes -/

/-- Between two quotes a text stands for itself: no quote in it is its end, every backslash has a
partner, and every partner a meaning. -/
structure Enclosed (mark : Char) (cs : List Char) : Prop where
  unquoted : .plain mark ∉ pieces cs
  paired : .loose ∉ pieces cs
  supported : ∀ c, .pair c ∈ pieces cs → c ∈ partners

/-- The quoted text before a closing quote is read to that quote, and has a translation, exactly
when it can be enclosed. -/
theorem enclosed_iff {mark : Char} (hmark : mark ≠ '\\') {inner : List Char} (rest : List Char) :
    Enclosed mark inner ↔ quotedBody? mark (inner ++ mark :: rest) = some (inner, rest) ∧
      ∃ value, translate inner = .ok value := by
  rw [quotedBody?_eq_some_iff hmark, exists_translate_eq_ok_iff, forall_supported_iff]
  constructor
  · rintro ⟨hunquoted, hpaired, hsupported⟩
    exact ⟨⟨rfl, hunquoted, hpaired⟩, hpaired, hsupported⟩
  · rintro ⟨⟨-, hunquoted, hpaired⟩, -, hsupported⟩
    exact ⟨hunquoted, hpaired, hsupported⟩

/-! ### Printed text -/

/-- A character that is printed between double quotes is one piece, and no quote by itself. -/
theorem exists_piece_escapeChar (c : Char) : ∃ p : Piece, p.Supported ∧ p ≠ .plain '"' ∧
    ∀ cs, pieces (escapeChar c ++ cs) = p :: pieces cs := by
  have hescaped : (∃ partner ∈ partners, escapeChar c = ['\\', partner]) ∨
      c ≠ '\\' ∧ c ≠ '"' ∧ escapeChar c = [c] := by
    unfold escapeChar
    repeat' split
    all_goals simp_all [partners]
  obtain ⟨partner, hpartner, htext⟩ | ⟨hesc, hquote, htext⟩ := hescaped
  · refine ⟨.pair partner, by simp [Piece.Supported, hpartner], nofun, fun cs => ?_⟩
    rw [htext]
    exact pieces_pair partner cs
  · refine ⟨.plain c, by simp [Piece.Supported], by simpa using hquote, fun cs => ?_⟩
    rw [htext]
    exact pieces_cons hesc cs

/-- Printed between double quotes, any characters make a text that can be enclosed. -/
theorem enclosed_escaped (cs : List Char) : Enclosed '"' (escaped cs) := by
  have hpieces : ∀ p ∈ pieces (escaped cs), p.Supported ∧ p ≠ .plain '"' := by
    induction cs with
    | nil => simp [escaped, pieces]
    | cons c cs ih =>
        obtain ⟨p, hp, hquote, htext⟩ := exists_piece_escapeChar c
        rw [escaped, htext]
        exact List.forall_mem_cons.2 ⟨⟨hp, hquote⟩, ih⟩
  obtain ⟨hpaired, hsupported⟩ := forall_supported_iff.1 fun p hp => (hpieces p hp).1
  exact ⟨fun hquote => (hpieces _ hquote).2 rfl, hpaired, hsupported⟩

end Escape

end BlockTemplate
