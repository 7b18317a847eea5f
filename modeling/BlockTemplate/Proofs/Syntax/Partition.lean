import BlockTemplate.Proofs.Syntax.Junction
import BlockTemplate.Proofs.Token.TokenStream

/-!
# The nodes of a template partition its text

The spans of the nodes of a template lie end to end from the start of its text to its end. Nothing
is between two nodes, so every blank that scanning skips stands between the markers of a block.

## Implementation notes

`Tiles` lays the nodes side by side and keeps the text of each. It is read off a derivation whose
leaves a run of the scanner finds: the first and last leaf of a block say where its text begins and
ends, and of the leaves between them only the text they have used counts (`tiles_of_finds`).

Main statement: `partitions_of_parse`.
-/

namespace BlockTemplate

open Grammar

variable {d : Delimiters}

/-- Nodes that stand side by side in a text, from an offset to its end. Raw text is followed by a
block or by the end. -/
inductive Tiles (d : Delimiters) : Nat → List Char → Template → Prop
  | nil (offset : Nat) : Tiles d offset [] []
  | raw {offset : Nat} {text rest : List Char} {nodes : Template} (nonempty : text ≠ [])
      (without : ¬d.opening <:+: text) (next : ∀ n ∈ nodes.head?, ∃ b, n.node = .block b)
      (tail : Tiles d (offset + Text.byteLength text) rest nodes) :
      Tiles d offset (text ++ rest)
        (⟨.raw (String.ofList text), ⟨offset, offset + Text.byteLength text⟩⟩ :: nodes)
  | block {offset : Nat} (b : Block) (inner : List Char) {rest : List Char} {nodes : Template}
      (tail : Tiles d (offset + Text.byteLength (d.opening ++ (inner ++ d.closing))) rest nodes) :
      Tiles d offset (d.opening ++ (inner ++ d.closing) ++ rest)
        (⟨.block b, ⟨offset, offset + Text.byteLength (d.opening ++ (inner ++ d.closing))⟩⟩ ::
          nodes)

/-! ### From a run to nodes side by side -/

namespace Scanner.Finds

variable {s s' : Scanner} {t : Token}

/-- Outside of blocks an opening marker is found with nothing before it. -/
theorem opening_eq {cs : List Char} {offset : Nat} (h : Finds d (.outside cs offset) [t] s')
    (hk : t.kind = .blockOpen) :
    ∃ rest, cs = d.opening ++ rest ∧ t.span.start = offset ∧
      s' = .inside rest (offset + Text.byteLength d.opening) := by
  obtain ⟨s₁, hnext, hnil⟩ := h.exists_step
  cases hnil
  obtain ⟨-, sk, lx, m, rest, hscan, rfl, rfl⟩ := next?_eq_token_iff.1 hnext
  obtain ⟨htext, -⟩ := scan_eq_found hscan
  cases finding_scan hscan with
  | opening => exact ⟨rest, htext, rfl, rfl⟩
  | raw => cases hk

/-- A closing marker leads out of its block, after some blanks. -/
theorem closing_eq (h : Finds d s [t] s') (hk : t.kind = .blockClose) :
    ∃ skipped rest, s.rest = skipped ++ (d.closing ++ rest) ∧
      t.span.stop = s.offset + Text.byteLength (skipped ++ d.closing) ∧
      s' = .outside rest t.span.stop := by
  obtain ⟨s₁, hnext, hnil⟩ := h.exists_step
  cases hnil
  obtain ⟨-, sk, lx, m, rest, hscan, rfl, rfl⟩ := next?_eq_token_iff.1 hnext
  obtain ⟨htext, -⟩ := scan_eq_found hscan
  obtain ⟨rfl, hclosing⟩ := (finding_scan hscan).closing_text hk
  rw [hclosing] at htext
  refine ⟨sk, rest, htext, ?_, rfl⟩
  simp only [tokenOf, hclosing, Text.byteLength_append, Nat.add_assoc]

/-- Outside of blocks, raw text is all that stands before the next opening marker. -/
theorem raw_eq {cs : List Char} {offset : Nat} (h : Finds d (.outside cs offset) [t] s')
    (hk : t.kind = .rawText) :
    ∃ text rest, cs = text ++ rest ∧ text ≠ [] ∧ ¬d.opening <:+: text ∧
      (rest = [] ∨ d.opening <+: rest) ∧ t.value = String.ofList text ∧
      t.span = ⟨offset, offset + Text.byteLength text⟩ ∧
      s' = .outside rest (offset + Text.byteLength text) := by
  obtain ⟨s₁, hnext, hnil⟩ := h.exists_step
  cases hnil
  obtain ⟨-, sk, lx, m, rest, hscan, rfl, rfl⟩ := next?_eq_token_iff.1 hnext
  obtain ⟨htext, hne⟩ := scan_eq_found hscan
  cases finding_scan hscan with
  | opening => cases hk
  | @raw text _ without ends => exact ⟨text, rest, htext, hne, without, ends, rfl, rfl, rfl⟩

/-- The leaves of a block use a text that stands between its markers. -/
theorem block_eq {b : BlockTree} {cs : List Char} {offset : Nat}
    (h : Finds d (.outside cs offset) b.tokens s') :
    ∃ inner rest, cs = d.opening ++ (inner ++ d.closing) ++ rest ∧
      b.opening.1.span.start = offset ∧
      b.closing.1.span.stop = offset + Text.byteLength (d.opening ++ (inner ++ d.closing)) ∧
      s' = .outside rest b.closing.1.span.stop := by
  have hleaves : b.tokens = [b.opening.1] ++ ((b.question.toList.map Subtype.val ++
      (b.head.tokens ++ FiltersTree.tokens b.filters)) ++ [b.closing.1]) := by
    simp [BlockTree.tokens]
  rw [hleaves] at h
  obtain ⟨s₁, hopening, h⟩ := h.exists_place
  obtain ⟨s₂, hbetween, hclosing⟩ := h.exists_place
  obtain ⟨text, rfl, hstart, rfl⟩ := hopening.opening_eq b.opening.2
  obtain ⟨used, htext, hoffset⟩ := hbetween.exists_used
  obtain ⟨skipped, rest, hrest, hstop, hs'⟩ := hclosing.closing_eq b.closing.2
  refine ⟨used ++ skipped, rest, ?_, hstart, ?_, hs'⟩
  · have hused : text = used ++ s₂.rest := htext
    simp [hused, hrest]
  · rw [hstop, hoffset]
    simp only [Text.byteLength_append, Nat.add_assoc]

end Scanner.Finds

/-- A derivation whose first leaf is an opening marker starts with a block. -/
theorem exists_block_of_opening {tree : TemplateTree} {t : Token} {ts : List Token}
    (h : TemplateTree.tokens tree = t :: ts) (hk : t.kind = .blockOpen) :
    ∀ n ∈ (TemplateTree.template tree).head?, ∃ b, n.node = .block b := by
  intro n hn
  cases tree with
  | nil => cases hn
  | cons first tree =>
      obtain rfl : first.placed = n := by simpa [TemplateTree.template] using hn
      cases first with
      | block b => exact ⟨_, rfl⟩
      | raw leaf =>
          have hleaf : leaf.1 = t := (List.cons.inj h).1
          rw [← hleaf, leaf.2] at hk
          cases hk

/-- The nodes of a derivation stand side by side in the text that its leaves are found in. -/
theorem tiles_of_finds (tree : TemplateTree) {cs : List Char} {offset : Nat} {p : Scanner}
    (h : Scanner.Finds d (.outside cs offset) (TemplateTree.tokens tree) p)
    (hend : (p.next? d).1 = none) : Tiles d offset cs (TemplateTree.template tree) := by
  induction tree generalizing cs offset with
  | nil =>
      cases h
      have hnil : cs = [] := TokenMachine.rest_eq_nil rfl rfl hend
      rw [hnil]
      exact .nil offset
  | cons n tree ih =>
      obtain ⟨p₁, hnode, htree⟩ := h.exists_place
      cases n with
      | raw leaf =>
          obtain ⟨text, rest, rfl, hne, hwithout, hends, hvalue, hspan, rfl⟩ :=
            hnode.raw_eq leaf.2
          have hnext : ∀ n ∈ (TemplateTree.template tree).head?, ∃ b, n.node = .block b := by
            rcases htree.after_raw hend hends with ⟨hnil, -⟩ | ⟨t, ts, hts, hk, -⟩
            · cases tree with
              | nil => simp [TemplateTree.template]
              | cons n tree => exact absurd (List.append_eq_nil_iff.1 hnil).1 n.tokens_ne_nil
            · exact exists_block_of_opening hts hk
          have hplaced : (NodeTree.raw leaf).placed =
              ⟨.raw (String.ofList text), ⟨offset, offset + Text.byteLength text⟩⟩ := by
            rw [NodeTree.placed, hvalue, hspan]
          change Tiles d offset _ ((NodeTree.raw leaf).placed :: TemplateTree.template tree)
          rw [hplaced]
          exact .raw hne hwithout hnext (ih htree)
      | block b =>
          obtain ⟨inner, rest, rfl, hstart, hstop, rfl⟩ := Scanner.Finds.block_eq hnode
          have hplaced : (NodeTree.block b).placed = ⟨.block b.toBlock,
              ⟨offset, offset + Text.byteLength (d.opening ++ (inner ++ d.closing))⟩⟩ := by
            rw [NodeTree.placed, hstart, hstop]
          change Tiles d offset _ ((NodeTree.block b).placed :: TemplateTree.template tree)
          rw [hplaced]
          exact .block b.toBlock inner (ih (hstop ▸ htree))

/-! ### Nodes side by side as a partition -/

/-- What the text of a node is: raw text as it stands, or a block from marker to marker. -/
def Node.Covers (d : Delimiters) : Node → List Char → Prop
  | raw text, part => text.toList = part ∧ ¬d.opening <:+: part
  | block _, part => ∃ inner, part = d.opening ++ (inner ++ d.closing)

namespace Tiles

variable {offset : Nat} {cs : List Char} {n : Placed} {nodes : Template}

/-- The first node covers the start of the text, the others what is left. -/
theorem exists_part (h : Tiles d offset cs (n :: nodes)) :
    ∃ part rest, cs = part ++ rest ∧ part ≠ [] ∧ n.node.Covers d part ∧
      n.span = ⟨offset, offset + Text.byteLength part⟩ ∧
      Tiles d (offset + Text.byteLength part) rest nodes := by
  cases h with
  | @raw _ text rest _ nonempty without next tail =>
      exact ⟨text, rest, rfl, nonempty, ⟨String.toList_ofList, without⟩, rfl, tail⟩
  | @block _ b inner rest _ tail =>
      have hne : d.opening ++ (inner ++ d.closing) ≠ [] := by
        intro hnil
        exact d.opening_ne_nil (List.append_eq_nil_iff.1 hnil).1
      exact ⟨_, rest, rfl, hne, ⟨inner, rfl⟩, rfl, tail⟩

theorem nodes_eq_nil_iff (h : Tiles d offset cs nodes) : nodes = [] ↔ cs = [] := by
  cases nodes with
  | nil =>
      cases h
      exact iff_of_true rfl rfl
  | cons n nodes =>
      obtain ⟨part, rest, rfl, hne, -⟩ := h.exists_part
      simp [hne]

theorem start_of_head (h : Tiles d offset cs nodes) :
    ∀ n ∈ nodes.head?, n.span.start = offset := by
  cases nodes with
  | nil => simp
  | cons n nodes =>
      obtain ⟨part, rest, -, -, -, hspan, -⟩ := h.exists_part
      simp [hspan]

theorem contiguous (h : Tiles d offset cs nodes) :
    nodes.IsChain fun a b => a.span.stop = b.span.start := by
  induction nodes generalizing offset cs with
  | nil => exact .nil
  | cons n nodes ih =>
      obtain ⟨part, rest, -, -, -, hspan, htail⟩ := h.exists_part
      refine List.isChain_cons.2 ⟨fun next hnext => ?_, ih htail⟩
      rw [htail.start_of_head next hnext, hspan]

theorem stop_of_getLast (h : Tiles d offset cs nodes) :
    ∀ n ∈ nodes.getLast?, n.span.stop = offset + Text.byteLength cs := by
  induction nodes generalizing offset cs with
  | nil => simp
  | cons n nodes ih =>
      obtain ⟨part, rest, rfl, -, -, hspan, htail⟩ := h.exists_part
      intro last hlast
      cases nodes with
      | nil =>
          cases htail
          obtain rfl : n = last := by simpa using hlast
          simp [hspan]
      | cons next nodes =>
          rw [List.getLast?_cons_cons] at hlast
          rw [ih htail last hlast, Text.byteLength_append, Nat.add_assoc]

/-- Raw text stands next to blocks only. -/
theorem alternate (h : Tiles d offset cs nodes) :
    nodes.IsChain fun a b => ∀ text, a.node = .raw text → ∃ block, b.node = .block block := by
  induction h with
  | nil => exact .nil
  | raw _ _ next _ ih => exact List.isChain_cons.2 ⟨fun b hb _ _ => next b hb, ih⟩
  | block _ _ _ ih =>
      refine List.isChain_cons.2 ⟨fun b _ text hraw => ?_, ih⟩
      cases hraw

/-- Every node covers a part of the text, and its span is where that part stands. -/
theorem exists_part_of_mem (h : Tiles d offset cs nodes) (hn : n ∈ nodes) :
    ∃ before part after, cs = before ++ (part ++ after) ∧ part ≠ [] ∧ n.node.Covers d part ∧
      n.span = ⟨offset + Text.byteLength before,
        offset + Text.byteLength before + Text.byteLength part⟩ := by
  induction nodes generalizing offset cs with
  | nil => cases hn
  | cons first nodes ih =>
      obtain ⟨part, rest, rfl, hne, hcovers, hspan, htail⟩ := h.exists_part
      rcases List.mem_cons.1 hn with rfl | hn
      · exact ⟨[], part, rest, rfl, hne, hcovers, hspan⟩
      · obtain ⟨before, part', after, rfl, hne', hcovers', hspan'⟩ := ih htail hn
        refine ⟨part ++ before, part', after, by simp, hne', hcovers', ?_⟩
        rw [hspan', Text.byteLength_append, Nat.add_assoc]

/-- Every node ends before those after it start. -/
theorem ordered (h : Tiles d offset cs nodes) :
    nodes.Pairwise fun a b => a.span.stop ≤ b.span.start := by
  induction nodes generalizing offset cs with
  | nil => exact .nil
  | cons n nodes ih =>
      obtain ⟨part, rest, -, -, -, hspan, htail⟩ := h.exists_part
      refine List.pairwise_cons.2 ⟨fun later hlater => ?_, ih htail⟩
      obtain ⟨before, _, _, -, -, -, hlater⟩ := htail.exists_part_of_mem hlater
      rw [hspan, hlater]
      exact Nat.le_add_right _ _

theorem start_lt_stop (h : Tiles d offset cs nodes) (hn : n ∈ nodes) :
    n.span.start < n.span.stop := by
  obtain ⟨before, part, after, -, hne, -, hspan⟩ := h.exists_part_of_mem hn
  rw [hspan]
  exact Nat.lt_add_of_pos_right (Text.byteLength_pos hne)

/-- No node starts before one that it comes after. -/
theorem pairwise_start_le (h : Tiles d offset cs nodes) :
    nodes.Pairwise fun a b => a.span.start ≤ b.span.start :=
  h.ordered.imp_of_mem fun ha _ hstop => (h.start_lt_stop ha).le.trans hstop

/-- The slices of the nodes together are the text they stand in. -/
theorem flatMap_slice (h : Tiles d offset cs nodes) (before : List Char)
    (hoffset : Text.byteLength before = offset) :
    nodes.flatMap (fun n => n.span.slice (before ++ cs)) = cs := by
  induction nodes generalizing offset cs before with
  | nil =>
      cases h
      rfl
  | cons n nodes ih =>
      obtain ⟨part, rest, rfl, -, -, hspan, htail⟩ := h.exists_part
      have hrest := ih htail (before ++ part) (by rw [Text.byteLength_append, hoffset])
      rw [List.append_assoc] at hrest
      rw [List.flatMap_cons, hrest, hspan, ← hoffset, Span.slice_middle]

end Tiles

/-- What the nodes of a template say about the text it was read from. -/
structure Partitions (d : Delimiters) (text : List Char) (template : Template) : Prop where
  starts : ∀ n ∈ template.head?, n.span.start = 0
  contiguous : template.IsChain fun a b => a.span.stop = b.span.start
  ends : ∀ n ∈ template.getLast?, n.span.stop = Text.byteLength text
  /-- A span covers whole characters of the text, at least one. -/
  spans : ∀ n ∈ template, ∃ before part after, text = before ++ (part ++ after) ∧ part ≠ [] ∧
    n.span = ⟨Text.byteLength before, Text.byteLength before + Text.byteLength part⟩
  slices : template.flatMap (fun n => n.span.slice text) = text
  empty : template = [] ↔ text = []
  raw : ∀ n ∈ template, ∀ literal, n.node = .raw literal →
    literal.toList = n.span.slice text ∧ ¬d.opening <:+: literal.toList
  /-- No two nodes of raw text are adjacent. -/
  alternate : template.IsChain fun a b =>
    ∀ literal, a.node = .raw literal → ∃ block, b.node = .block block
  /-- A block spans both its markers and what is between them. -/
  block : ∀ n ∈ template, ∀ b, n.node = .block b →
    ∃ inner, n.span.slice text = d.opening ++ (inner ++ d.closing)

theorem Tiles.partitions {text : List Char} {template : Template} (h : Tiles d 0 text template) :
    Partitions d text template := by
  have hpart (n : Placed) (hn : n ∈ template) : ∃ before part after,
      text = before ++ (part ++ after) ∧ part ≠ [] ∧ n.node.Covers d part ∧
        n.span = ⟨Text.byteLength before, Text.byteLength before + Text.byteLength part⟩ := by
    simpa only [Nat.zero_add] using h.exists_part_of_mem hn
  have hslice (n : Placed) (hn : n ∈ template) : n.node.Covers d (n.span.slice text) := by
    obtain ⟨before, part, after, rfl, -, hcovers, hspan⟩ := hpart n hn
    rwa [hspan, Span.slice_middle]
  constructor
  case starts => exact h.start_of_head
  case contiguous => exact h.contiguous
  case ends => simpa only [Nat.zero_add] using h.stop_of_getLast
  case spans =>
    intro n hn
    obtain ⟨before, part, after, htext, hne, -, hspan⟩ := hpart n hn
    exact ⟨before, part, after, htext, hne, hspan⟩
  case slices => exact h.flatMap_slice [] rfl
  case empty => exact h.nodes_eq_nil_iff
  case raw =>
    intro n hn literal hnode
    have hcovers := hslice n hn
    rw [hnode] at hcovers
    exact ⟨hcovers.1, hcovers.1 ▸ hcovers.2⟩
  case alternate => exact h.alternate
  case block =>
    intro n hn b hnode
    have hcovers := hslice n hn
    rwa [hnode] at hcovers

theorem Template.tiles_of_parse {m : Markers} {source : String} {template : Template}
    (h : Template.parse m source = .ok template) :
    Tiles m.delimiters 0 source.toList template := by
  obtain ⟨tokens, htokens, hread⟩ := Template.parse_eq_ok_iff.1 h
  obtain ⟨p, hfinds, hend⟩ := Scanner.tokens_eq_ok_iff.1 htokens
  obtain ⟨tree, rfl, rfl⟩ := TokenMachine.templateTree_of_reads (TokenMachine.run_eq_ok_iff.1 hread)
  exact tiles_of_finds tree hfinds hend

/-- The nodes of a template partition its text, whatever the markers are. -/
theorem Template.partitions_of_parse {m : Markers} {source : String} {template : Template}
    (h : Template.parse m source = .ok template) :
    Partitions m.delimiters source.toList template :=
  (Template.tiles_of_parse h).partitions

/-- Equal markers of two characters, one of them inside a string, a character of two bytes, and two
blocks side by side. -/
theorem Template.partitions_of_parse_equal_markers :
    let m : Markers := ⟨"%%", "%%"⟩
    let source := "é%% f( 'x%%' ) %%%%?a|b%% "
    let template : Template := [⟨.raw "é", ⟨0, 2⟩⟩,
      ⟨.block ⟨false, .call "f" [.string "x%%"], []⟩, ⟨2, 18⟩⟩,
      ⟨.block ⟨true, .ident "a", [.ident "b"]⟩, ⟨18, 26⟩⟩, ⟨.raw " ", ⟨26, 27⟩⟩]
    Template.parse m source = .ok template ∧
      Partitions m.delimiters source.toList template := by
  intro m source template
  have h : Template.parse m source = .ok template := by cbv
  exact ⟨h, Template.partitions_of_parse h⟩

end BlockTemplate
