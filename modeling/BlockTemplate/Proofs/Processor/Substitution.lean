import BlockTemplate.Proofs.Processor.Concatenation
import BlockTemplate.Proofs.Processor.NameKey
import BlockTemplate.Proofs.Properties.Lookup
import BlockTemplate.Proofs.Syntax.PrintedBlock
import BlockTemplate.Render

/-!
# Substitution

A text with references between markers expands to the text with the selected values in their
place. The values are put in as they are: no marker, quote or block in them counts.

## Implementation notes

What a text expands to is stated for any offset that it may start at, so that texts can be put
before it one by one (`ExpandsTo.text_append`, `ExpandsTo.block_append`).

Main statement: `render_segments`.
-/

namespace BlockTemplate

open Calendar (Moment)
open Processor (Reference)

namespace Processor

variable {p : Processor Id} {cs output : List Char}

/-- Wherever a text starts outside of blocks, it is read as a template with this expansion. -/
def ExpandsTo (p : Processor Id) (cs output : List Char) : Prop :=
  ∀ offset, ∃ template, p.expansion template = .ok output ∧
    Template.ofScan ((Scanner.outside cs offset).tokens p.settings.markers.delimiters) =
      .ok template

theorem ExpandsTo.process_eq {source : String} (h : p.ExpandsTo source.toList output) :
    (p.process source).run = .ok (String.ofList output) := by
  obtain ⟨template, hexpansion, hscan⟩ := h 0
  rw [Processor.process_eq, Template.parse_eq_ofScan, hscan]
  simp only [Except.bind, hexpansion, Except.map]

theorem expandsTo_nil (p : Processor Id) : p.ExpandsTo [] [] := by
  intro offset
  refine ⟨[], rfl, ?_⟩
  rw [Scanner.tokens_of_none rfl]
  rfl

/-- Text without an opening marker is put before an expansion as it is. -/
theorem ExpandsTo.text_append (h : p.ExpandsTo cs output) {text : List Char}
    (plain : ¬p.settings.markers.delimiters.opening <:+: text)
    (hs : ¬Text.Straddles p.settings.markers.delimiters.opening text cs) :
    p.ExpandsTo (text ++ cs) (text ++ output) := by
  intro offset
  obtain ⟨head, rest, hbreak⟩ :
      ∃ head rest, Text.breakOn p.settings.markers.delimiters.opening cs = (head, rest) :=
    ⟨_, _, rfl⟩
  have hjoin : Text.breakOn p.settings.markers.delimiters.opening (text ++ cs) =
      (text ++ head, rest) := by
    rw [Text.breakOn_append_of_not_straddles hs, if_pos (Text.breakOn_rest_eq_nil plain), hbreak]
  have hoffset : offset + Text.byteLength (text ++ head) =
      offset + Text.byteLength text + Text.byteLength head := by
    rw [Text.byteLength_append, Nat.add_assoc]
  obtain ⟨template, hexpansion, hscan⟩ := h (offset + Text.byteLength text)
  rw [Template.ofScan_outside hbreak, ← hoffset] at hscan
  rw [Template.ofScan_outside hjoin]
  cases hrest : Template.ofScan ((Scanner.outside rest
      (offset + Text.byteLength (text ++ head))).tokens p.settings.markers.delimiters) with
  | error e =>
      rw [hrest] at hscan
      cases hscan
  | ok nodes =>
      rw [hrest] at hscan
      obtain rfl := Except.ok.inj hscan
      refine ⟨_, ?_, rfl⟩
      rw [expansion_append, expansion_rawNodes] at hexpansion ⊢
      cases hnodes : p.expansion nodes with
      | error e => simp [hnodes, Except.bind, Except.map] at hexpansion
      | ok more =>
          obtain rfl : head ++ more = output := by
            simpa [hnodes, Except.bind, Except.map] using hexpansion
          simp [Except.bind, Except.map]

/-- A block as it is spelled is put before an expansion as its text. -/
theorem ExpandsTo.block_append (hd : p.settings.markers.delimiters.Neutral)
    (h : p.ExpandsTo cs output) {b : Block} (hb : b.Spellable) {text : List Char}
    (heval : (p.evalBlock b).run.run = .ok text) :
    p.ExpandsTo (p.settings.markers.delimiters.opening ++ (b.spell ++
      (p.settings.markers.delimiters.closing ++ cs))) (text ++ output) := by
  intro offset
  obtain ⟨tree, rfl, -, hfinds⟩ := exists_blockTree_append hd hb cs offset
  obtain ⟨template, hexpansion, hscan⟩ := h tree.closing.1.span.stop
  have hreads : TokenMachine.Reads .top tree.tokens .top [(Grammar.NodeTree.block tree).placed] :=
    TokenMachine.reads_nodeTree (.block tree)
  have hnode : (p.expandNode (Grammar.NodeTree.block tree).placed).run.run = .ok text := by
    simp only [expandNode, Grammar.NodeTree.placed, locate, ExceptT.run_mk, Id.run_bind, heval]
    rfl
  refine ⟨(Grammar.NodeTree.block tree).placed :: template, ?_, ?_⟩
  · rw [expansion_cons, hnode, hexpansion]
    rfl
  · rw [hfinds.tokens_eq, Template.ofScan_map hreads, hscan]
    rfl

/-! ### Names over the members of an object -/

theorem part?_lowerString {specifier : String} (h : ∀ c ∈ specifier.toList, isNameChar c = true)
    (j : Json) : j.part? (Text.lowerString specifier) = j.part? specifier := by
  cases j with
  | object fields => simp only [Json.part?, Properties.first?, Text.lowerString_lowerString]
  | array items => simp only [Json.part?, Text.lowerString, String.toList_ofList, position?_lower h]
  | null | bool | integer | float | string => rfl

/-- What a reference selects does not change with its case. -/
theorem Reference.select?_lower {r : Reference} (h : IsName r.text)
    (fields : List (String × Json)) : r.lower.select? fields = r.select? fields := by
  obtain ⟨-, hspecifier⟩ := isNameChar_parts h
  obtain ⟨name, _ | specifier⟩ := r
  · simp only [select?, lower, Option.map_none, Properties.first?, Text.lowerString_lowerString]
  · have hchars := hspecifier specifier rfl
    have hempty : (Text.lowerString specifier).isEmpty = specifier.isEmpty := by
      rw [Bool.eq_iff_iff, String.isEmpty_iff, String.isEmpty_iff, ← String.toList_inj,
        ← String.toList_inj]
      simp [Text.lowerString, lower_of_isNameChar hchars]
    have hpart : Json.part? (Text.lowerString specifier) = Json.part? specifier :=
      funext (part?_lowerString hchars)
    simp only [select?, lower, Option.map_some, Properties.first?, Text.lowerString_lowerString,
      hempty, hpart]

variable {fields : List (String × Json)} {r : Reference}

/-- A processor that knows the members of an object, with the standard settings. -/
abbrev ofMembers (present : Moment) (fields : List (String × Json)) : Processor Id :=
  Processor.over (.ofJson (.object fields)) .standard present

theorem resolveVariable_ofMembers (present : Moment) (fields : List (String × Json))
    {r : Reference} (plain : '#' ∉ r.name.toList) (h : IsName r.text) :
    ((ofMembers present fields).resolveVariable r.text).run.run =
      .ok ((r.select? fields).map fun j => Properties.present (.ofJson j)) := by
  have hlookup := Properties.lookup_ofJson fields r.lower
  rw [Reference.select?_lower h] at hlookup
  have hresolvers : (ofMembers present fields).resolvers =
      [(Properties.ofValue (.ofJson (.object fields))).resolver] := rfl
  rw [resolveVariable, Reference.ofName_text plain h, hresolvers, ask]
  cases hselect : r.select? fields with
  | none => simp [Properties.resolver, hlookup, hselect, ask]
  | some j => simp [Properties.resolver, hlookup, hselect, Properties.isNull_present]

theorem function?_ofMembers (present : Moment) (fields : List (String × Json)) {name : String}
    (h : IsName name) (hname : ∀ b : Builtin, Text.lowerString name ≠ b.name) :
    (ofMembers present fields).function? name = none := by
  have hregistered : (ofMembers present fields).registered? (nameKey name) = none := rfl
  have hfind : Builtin.find? (nameKey name) = none := by
    rw [Builtin.find?, lowerString_nameKey h, Builtin.ofName?, nameKey_eq h, List.find?_eq_none]
    intro b _ hb
    exact hname b (of_decide_eq_true hb).symm
  simp only [function?, hregistered, hfind, Option.map_none]

/-- A bare name is the value that it selects. Nothing selected is null, unless there is a function
of the name. -/
theorem evalName_ofMembers (present : Moment) {fields : List (String × Json)} {r : Reference}
    (plain : '#' ∉ r.name.toList) (h : IsName r.text)
    (settled : (r.select? fields).isSome = true ∨
      ∀ b : Builtin, Text.lowerString r.text ≠ b.name) :
    ((ofMembers present fields).evalName r.text).run.run =
      .ok (((r.select? fields).map fun j => Properties.present (.ofJson j)).getD .null) := by
  simp only [evalName, ExceptT.run_bind, Id.run_bind,
    resolveVariable_ofMembers present fields plain h]
  cases hselect : r.select? fields with
  | some j => rfl
  | none =>
      have hunnamed : ∀ b : Builtin, Text.lowerString r.text ≠ b.name :=
        settled.resolve_left (by simp [hselect])
      simp only [resolveFunction, function?_ofMembers present fields h hunnamed]
      rfl

end Processor

/-- A part of a text: characters that open no block, or a reference between markers. -/
inductive Segment where
  | literal (text : String) (plain : '\x7b' ∉ text.toList)
  | reference (r : Reference) (plain : '#' ∉ r.name.toList) (isName : IsName r.text)

namespace Segment

/-- A segment as a template spells it. -/
def source : Segment → List Char
  | literal text _ => text.toList
  | reference r _ _ => defaultOpening ++ (r.text.toList ++ defaultClosing)

/-- The text of what a segment selects. Nothing is written where nothing is selected. -/
def output (fields : List (String × Json)) : Segment → List Char
  | literal text _ => text.toList
  | reference r _ _ =>
    match r.select? fields with
    | none => []
    | some j => (Value.ofJson j).plainText

/-- A reference selects something, or its text is not the name of a built-in function. -/
def Settled (fields : List (String × Json)) : Segment → Prop
  | literal _ _ => True
  | reference r _ _ =>
    (r.select? fields).isSome = true ∨ ∀ b : Builtin, Text.lowerString r.text ≠ b.name

/-- A block of a reference has the text of what the reference selects. -/
theorem evalBlock_ofMembers (present : Moment) {fields : List (String × Json)} {r : Reference}
    {plain : '#' ∉ r.name.toList} {isName : IsName r.text}
    (settled : (reference r plain isName).Settled fields) :
    ((Processor.ofMembers present fields).evalBlock ⟨false, .ident r.text, []⟩).run.run =
      .ok ((reference r plain isName).output fields) := by
  simp only [Processor.evalBlock, Processor.evalHead, ExceptT.run_bind, Id.run_bind,
    Processor.evalName_ofMembers present plain isName settled]
  rw [output]
  cases r.select? fields with
  | none => rfl
  | some j => exact congrArg Except.ok (Properties.plainText_present (.ofJson j))

theorem expandsTo_segments (present : Moment) {fields : List (String × Json)}
    {segments : List Segment} (settled : ∀ s ∈ segments, s.Settled fields) :
    (Processor.ofMembers present fields).ExpandsTo
      (segments.flatMap source) (segments.flatMap (output fields)) := by
  have hopening : Markers.standard.delimiters.opening = defaultOpening := by decide +kernel
  have hclosing : Markers.standard.delimiters.closing = defaultClosing := by decide +kernel
  induction segments with
  | nil => exact Processor.expandsTo_nil _
  | cons s segments ih =>
      obtain ⟨hs, hrest⟩ := List.forall_mem_cons.1 settled
      have hmore := ih hrest
      cases s with
      | literal text plain =>
          apply hmore.text_append
          · change ¬Markers.standard.delimiters.opening <:+: text.toList
            rw [hopening]
            exact fun hpart => plain (hpart.subset List.mem_cons_self)
          · exact Text.not_straddles_of_length_eq_one (congrArg List.length hopening)
      | reference r plain isName =>
          have hspellable : Block.Spellable ⟨false, .ident r.text, []⟩ := by
            simpa [Block.Spellable, Block.chain] using Expr.Spellable.ident isName
          have hspell : Block.spell ⟨false, .ident r.text, []⟩ = r.text.toList := by
            simp [Block.spell, Expr.spell, Expr.spellFilters]
          have hblock := hmore.block_append Markers.neutral_standard hspellable
            (evalBlock_ofMembers present hs)
          change Processor.ExpandsTo _ (Markers.standard.delimiters.opening ++ (Block.spell _ ++
            (Markers.standard.delimiters.closing ++ _))) _ at hblock
          rw [hopening, hclosing, hspell] at hblock
          simpa [source] using hblock

end Segment

/-- A text of literals and references over a JSON object expands to the literals and the texts of
what the references select. So text without an opening marker expands to itself. -/
theorem render_segments (present : Moment) (fields : List (String × Json)) :
    (∀ segments : List Segment, (∀ s ∈ segments, s.Settled fields) →
      render present .standard (String.ofList (segments.flatMap Segment.source)) (.object fields) =
        .ok (String.ofList (segments.flatMap (Segment.output fields)))) ∧
    ∀ text : String, '\x7b' ∉ text.toList →
      render present .standard text (.object fields) = .ok text := by
  have hsegments (segments : List Segment) (settled : ∀ s ∈ segments, s.Settled fields) :
      render present .standard (String.ofList (segments.flatMap Segment.source))
        (.object fields) = .ok (String.ofList (segments.flatMap (Segment.output fields))) := by
    apply Processor.ExpandsTo.process_eq
    rw [String.toList_ofList]
    exact Segment.expandsTo_segments present settled
  refine ⟨hsegments, fun text plain => ?_⟩
  have hliteral := hsegments [.literal text plain] (by simp [Segment.Settled])
  simpa [Segment.source, Segment.output] using hliteral

/-- Values that hold markers, quotes and blocks, a name in another case, an item of a list, a null
under the name of a function, and a name that selects nothing. -/
theorem render_segments_blocks_in_values :
    let fields : List (String × Json) := [("Items", .array [.bool true, .string "\x7bnow|'"]),
      ("now", .null), ("text", .string "\x7bitems\x7d\x7d \"")]
    render default .standard "<\x7bTEXT\x7d> \x7d\x7bitems#1\x7d\x7bNOW\x7d, \x7bnone#\x7d"
        (.object fields) = .ok "<\x7bitems\x7d\x7d \"> \x7d\x7bnow|', " ∧
      render default .standard "\x7d 'text'" (.object fields) = .ok "\x7d 'text'" := by
  intro fields
  let segments : List Segment := [.literal "<" (by decide),
    .reference ⟨"TEXT", none⟩ (by decide) (by decide +kernel),
    .literal "> \x7d" (by decide),
    .reference ⟨"items", some "1"⟩ (by decide) (by decide +kernel),
    .reference ⟨"NOW", none⟩ (by decide) (by decide +kernel),
    .literal ", " (by decide),
    .reference ⟨"none", some ""⟩ (by decide) (by decide +kernel)]
  have hunnamed : ∀ b : Builtin, Text.lowerString "none#" ≠ b.name := by
    intro b
    cases b <;> decide +kernel
  have hsettled : ∀ s ∈ segments, s.Settled fields := by
    simp only [segments, List.forall_mem_cons]
    exact ⟨trivial, .inl (by decide +kernel), trivial, .inl (by decide +kernel),
      .inl (by decide +kernel), trivial, .inr hunnamed, nofun⟩
  have hsource : segments.flatMap Segment.source =
      "<\x7bTEXT\x7d> \x7d\x7bitems#1\x7d\x7bNOW\x7d, \x7bnone#\x7d".toList := by decide +kernel
  have houtput : segments.flatMap (Segment.output fields) =
      "<\x7bitems\x7d\x7d \"> \x7d\x7bnow|', ".toList := by decide +kernel
  obtain ⟨hsegments, htext⟩ := render_segments default fields
  have hrender := hsegments segments hsettled
  rw [hsource, houtput, String.ofList_toList, String.ofList_toList] at hrender
  exact ⟨hrender, htext _ (by decide)⟩

end BlockTemplate
