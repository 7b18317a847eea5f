import BlockTemplate.Proofs.Token.LexicalError

/-!
# Quoted text in a block

A block that holds one quoted text is scanned as an opening marker, a string and a closing marker
exactly when the text can be enclosed by its quotes, and the string is then the translation of the
text. So the search for the closing quote, the translation of escapes and the printing of strings
agree on which backslash belongs to which character.

## Implementation notes

The quote that ends the string is compared with the one that the block was written with by the
number of bytes before it, since all that is known of the string token is its span.

Main statement: `quotedText_agrees`.
-/

namespace BlockTemplate

open Escape (Enclosed)

section

variable {d : Delimiters} {mark : Char} {inner : List Char}

/-- The tokens of a block that holds one quoted text. -/
def quotationTokens (d : Delimiters) (inner : List Char) (value : String) : List Token :=
  let start := Text.byteLength d.opening
  let stop := start + (Text.byteLength inner + 2)
  [⟨.blockOpen, String.ofList d.opening, ⟨0, start⟩⟩, ⟨.string, value, ⟨start, stop⟩⟩,
    ⟨.blockClose, String.ofList d.closing, ⟨stop, stop + Text.byteLength d.closing⟩⟩]

theorem byteLength_quoted (hmark : mark ∈ ['\'', '"']) (inner : List Char) :
    Text.byteLength (mark :: (inner ++ [mark])) = Text.byteLength inner + 2 := by
  have hsize : mark.utf8Size = 1 := by
    simp only [List.mem_cons, List.not_mem_nil, or_false] at hmark
    rcases hmark with rfl | rfl <;> rfl
  simp only [Text.byteLength_cons, Text.byteLength_append, Text.byteLength_nil, hsize]
  omega

/-- A quote in a block is where a quoted text starts. -/
theorem scan_inside_quote (hd : d.Neutral) (hmark : mark ∈ ['\'', '"']) (body : List Char) :
    scan d .inside (mark :: body) = scanQuoted [] mark body := by
  obtain ⟨hblank, hchar⟩ := isBlockBlank_of_mark (by grind : mark ∈ _)
  have hscan := scan_inside_eq (d := d) (List.forall_mem_nil _) hblank body
  rw [List.nil_append] at hscan
  rw [hscan, scanItem_quote (hd.clear hchar body) hmark]

namespace Scanner

theorem tokens_quotation_iff (hd : d.Neutral) (hmark : mark ∈ ['\'', '"']) {value : String} :
    (start (d.opening ++ mark :: (inner ++ mark :: d.closing))).tokens d =
        .ok (quotationTokens d inner value) ↔
      Enclosed mark inner ∧ Escape.translate inner = .ok value.toList := by
  have hesc := ne_backslash_of_quote hmark
  have hopening := next?_opening d (mark :: (inner ++ mark :: d.closing)) 0
  rw [Nat.zero_add] at hopening
  rw [tokens_eq_ok_iff]
  constructor
  · rintro ⟨s, hfinds, -⟩
    obtain ⟨s₁, hfirst, htail⟩ := hfinds.exists_step
    obtain ⟨-, rfl⟩ := Prod.mk.inj (hopening.symm.trans hfirst)
    obtain ⟨s₂, hsecond, -⟩ := htail.exists_step
    obtain ⟨-, sk, lx, m, rest, hscan, htoken, -⟩ := next?_eq_token_iff.1 hsecond
    rw [scan_inside_quote hd hmark] at hscan
    obtain ⟨rfl, -, inner', value', hbody, henclosed, hvalue, rfl⟩ :=
      (scanQuoted_eq_found_iff hesc).1 hscan
    obtain ⟨rfl, hlength⟩ :
        value = String.ofList value' ∧ Text.byteLength inner' = Text.byteLength inner := by
      rw [tokenOf, byteLength_quoted hmark] at htoken
      simpa [eq_comm] using htoken
    have hinner : inner' = inner := by
      rw [← Text.takeBytes_append inner' (mark :: rest), ← hbody, hlength, Text.takeBytes_append]
    rw [← hinner, String.toList_ofList]
    exact ⟨henclosed, hvalue⟩
  · rintro ⟨henclosed, hvalue⟩
    have hclosing := next?_closing hd.closingUnskipped []
      (Text.byteLength d.opening + (Text.byteLength inner + 2))
    rw [List.append_nil] at hclosing
    have hscan : scan d .inside (mark :: (inner ++ mark :: d.closing)) =
        .found [] ⟨.string, value.toList, mark :: (inner ++ [mark])⟩ .inside d.closing := by
      rw [scan_inside_quote hd hmark]
      exact (scanQuoted_eq_found_iff hesc).2
        ⟨rfl, rfl, inner, value.toList, rfl, henclosed, hvalue, rfl⟩
    refine ⟨_, .cons hopening (.cons (next?_eq_token_iff.2 ⟨rfl, _, _, _, _, hscan, ?_, ?_⟩)
      (.cons hclosing (.nil _))), rfl⟩
    · rw [tokenOf, byteLength_quoted hmark, String.ofList_toList]
      rfl
    · rw [pass, byteLength_quoted hmark]
      rfl

end Scanner

end

/-- The template of one quoted text between curly braces. -/
def quotation (mark : Char) (text : String) : String :=
  String.ofList ('\x7b' :: mark :: (text.toList ++ [mark, '\x7d']))

theorem tokenize_quotation_iff {mark : Char} (hmark : mark ∈ ['\'', '"']) {text value : String} :
    tokenize .standard (quotation mark text) =
        .ok [⟨.blockOpen, "\x7b", ⟨0, 1⟩⟩,
          ⟨.string, value, ⟨1, Text.byteLength text.toList + 3⟩⟩,
          ⟨.blockClose, "\x7d",
            ⟨Text.byteLength text.toList + 3, Text.byteLength text.toList + 4⟩⟩] ↔
      Enclosed mark text.toList ∧ Escape.translate text.toList = .ok value.toList := by
  rw [← Scanner.tokens_quotation_iff (d := Markers.standard.delimiters) (by decide) hmark]
  have htokens : quotationTokens Markers.standard.delimiters text.toList value =
      [⟨.blockOpen, "\x7b", ⟨0, 1⟩⟩, ⟨.string, value, ⟨1, Text.byteLength text.toList + 3⟩⟩,
        ⟨.blockClose, "\x7d",
          ⟨Text.byteLength text.toList + 3, Text.byteLength text.toList + 4⟩⟩] := by
    have hopening : Text.byteLength Markers.standard.delimiters.opening = 1 := by decide
    have hclosing : Text.byteLength Markers.standard.delimiters.closing = 1 := by decide
    have hstop : 1 + (Text.byteLength text.toList + 2) = Text.byteLength text.toList + 3 := by
      omega
    simp only [quotationTokens, hopening, hclosing, hstop]
    rfl
  rw [htokens, Scanner.tokenize_eq, quotation, String.toList_ofList]
  rfl

/-- The three readings of a quoted text agree. It is scanned as one string exactly when it can be
enclosed by its quotes, the string is its translation, and what is printed between double quotes
can be enclosed and translates back. -/
theorem quotedText_agrees {mark : Char} (hmark : mark ∈ ['\'', '"']) (text : String) :
    (∀ value : String, tokenize .standard (quotation mark text) =
        .ok [⟨.blockOpen, "\x7b", ⟨0, 1⟩⟩,
          ⟨.string, value, ⟨1, Text.byteLength text.toList + 3⟩⟩,
          ⟨.blockClose, "\x7d",
            ⟨Text.byteLength text.toList + 3, Text.byteLength text.toList + 4⟩⟩] ↔
      Enclosed mark text.toList ∧ Escape.translateMarked text.toList = .ok value.toList) ∧
    (Enclosed mark text.toList →
      ∃ value : String, Escape.translateMarked text.toList = .ok value.toList) ∧
    ((∃ value, Escape.translateMarked text.toList = .ok value) ↔
      .loose ∉ Escape.pieces text.toList ∧
        ∀ c, .pair c ∈ Escape.pieces text.toList → c ∈ Escape.partners) ∧
    Escape.translateMarked text.toList = Escape.translate text.toList ∧
    ∀ value : String, ∃ inner, Escape.quote value.toList = '"' :: (inner ++ ['"']) ∧
      Enclosed '"' inner ∧ Escape.translateMarked inner = .ok value.toList := by
  simp only [Escape.translateMarked_eq_translate]
  refine ⟨fun value => tokenize_quotation_iff hmark, ?_, ?_, trivial, ?_⟩
  · intro henclosed
    obtain ⟨-, value, hvalue⟩ :=
      (Escape.enclosed_iff (ne_backslash_of_quote hmark) []).1 henclosed
    exact ⟨String.ofList value, by rw [hvalue, String.toList_ofList]⟩
  · rw [Escape.exists_translate_eq_ok_iff, Escape.forall_supported_iff]
  · intro value
    exact ⟨Escape.escaped value.toList, rfl, Escape.enclosed_escaped _, Escape.translate_escaped _⟩

/-- Of three backslashes before a quote the last one belongs to the quote; the other quote and a
character of two bytes stand for themselves. -/
theorem quotedText_agrees_after_backslashes :
    let text := "é\\\\\\' \"\\t"
    '\'' ∈ ['\'', '"'] ∧ Enclosed '\'' text.toList ∧
      tokenize .standard (quotation '\'' text) = .ok [⟨.blockOpen, "\x7b", ⟨0, 1⟩⟩,
        ⟨.string, "é\\' \"\t", ⟨1, 13⟩⟩, ⟨.blockClose, "\x7d", ⟨13, 14⟩⟩] := by
  intro text
  have htokens : tokenize .standard (quotation '\'' text) = .ok [⟨.blockOpen, "\x7b", ⟨0, 1⟩⟩,
      ⟨.string, "é\\' \"\t", ⟨1, 13⟩⟩, ⟨.blockClose, "\x7d", ⟨13, 14⟩⟩] := by
    cbv
  have hquote : '\'' ∈ ['\'', '"'] := by decide
  have hlength : Text.byteLength text.toList = 10 := by cbv
  obtain ⟨hread, -⟩ := quotedText_agrees hquote text
  rw [hlength] at hread
  exact ⟨hquote, ((hread "é\\' \"\t").1 htokens).1, htokens⟩

end BlockTemplate
