import BlockTemplate.Proofs.Processor.Relocation
import BlockTemplate.Proofs.Syntax.BlankInsertion

/-!
# Expanding a template with more blanks in its blocks

Blanks between the tokens of a block are for the reader of a template alone. Expansion asks the host
the same and gives the same text; a failure is reported at the same block, which spans the blanks
as well or stands behind them.

Main statement: `process_insert_blanks`.
-/

namespace BlockTemplate.Processor

/-- With neutral markers, blanks that are put between two neighbouring tokens of a block change
spans alone. The nodes before that block stay where they are, the block grows by the blanks, and the
nodes behind it move by them. The template expands to the same, and a failure moves like the node it
is reported at. -/
theorem process_insert_blanks {m : Type → Type} [Monad m] [LawfulMonad m] (p : Processor m)
    (hp : p.settings.markers.delimiters.Neutral) {left right blanks : String}
    {before after : List Token} {a b : Token} {template : Template}
    (hparse : Template.parse p.settings.markers (left ++ right) = .ok template)
    (h : SplitsBlock p.settings.markers left right before a b after)
    (hblank : ∀ c ∈ blanks.toList, isBlockBlank c = true) :
    (∃ earlier block start stop later,
      template = earlier ++ ⟨.block block, ⟨start, stop⟩⟩ :: later ∧
        start ≤ a.span.start ∧ b.span.stop ≤ stop ∧
        Template.parse p.settings.markers (left ++ blanks ++ right) =
          .ok (earlier ++ ⟨.block block, ⟨start, stop + Text.byteLength blanks.toList⟩⟩ ::
            later.map (Placed.shift (Text.byteLength blanks.toList)))) ∧
      p.process (left ++ blanks ++ right) =
        Except.mapError (Located.relocate
          (startMoved (Text.byteLength left.toList) (Text.byteLength blanks.toList))
          (stopMoved (Text.byteLength left.toList) (Text.byteLength blanks.toList))) <$>
            p.process (left ++ right) :=
  ⟨h.parse_eq hp hparse hblank,
    p.process_relocate _ _ hparse (h.parse_relocate hp hparse hblank)⟩

/-- Two blanks of four bytes between a bracket and a number that touch, behind a block and in one
that fails. -/
theorem process_insert_blanks_unknown_function :
    let p : Processor Id := ⟨⟨⟨"<%", "%>"⟩, true, ", ", "%Y"⟩,
      [fun name _ => pure (.ok (if name = "name" then some (.string "Ada") else none))], [],
      default⟩
    let left := "é<%name%><%name|nope("
    let right := "+2)%>c"
    let blanks := "\u2028\n"
    let before : List Token := [⟨.rawText, "é", ⟨0, 2⟩⟩, ⟨.blockOpen, "<%", ⟨2, 4⟩⟩,
      ⟨.ident, "name", ⟨4, 8⟩⟩, ⟨.blockClose, "%>", ⟨8, 10⟩⟩, ⟨.blockOpen, "<%", ⟨10, 12⟩⟩,
      ⟨.ident, "name", ⟨12, 16⟩⟩, ⟨.filter, "|", ⟨16, 17⟩⟩, ⟨.ident, "nope", ⟨17, 21⟩⟩]
    let after : List Token := [⟨.bracketClose, ")", ⟨24, 25⟩⟩, ⟨.blockClose, "%>", ⟨25, 27⟩⟩,
      ⟨.rawText, "c", ⟨27, 28⟩⟩]
    p.settings.markers.delimiters.Neutral ∧
      Template.parse p.settings.markers (left ++ right) = .ok [⟨.raw "é", ⟨0, 2⟩⟩,
        ⟨.block ⟨false, .ident "name", []⟩, ⟨2, 10⟩⟩,
        ⟨.block ⟨false, .ident "name", [.call "nope" [.number "+2"]]⟩, ⟨10, 27⟩⟩,
        ⟨.raw "c", ⟨27, 28⟩⟩] ∧
      SplitsBlock p.settings.markers left right before ⟨.bracketOpen, "(", ⟨21, 22⟩⟩
        ⟨.number, "+2", ⟨22, 24⟩⟩ after ∧
      (∀ c ∈ blanks.toList, isBlockBlank c = true) ∧
      (p.process (left ++ blanks ++ right)).run =
        .error ⟨.resolution (.unknownFunction "nope"), ⟨10, 31⟩⟩ := by
  intro p left right blanks before after
  have hp : p.settings.markers.delimiters.Neutral := by decide +kernel
  have hparse : Template.parse p.settings.markers (left ++ right) = .ok [⟨.raw "é", ⟨0, 2⟩⟩,
      ⟨.block ⟨false, .ident "name", []⟩, ⟨2, 10⟩⟩,
      ⟨.block ⟨false, .ident "name", [.call "nope" [.number "+2"]]⟩, ⟨10, 27⟩⟩,
      ⟨.raw "c", ⟨27, 28⟩⟩] := by cbv
  have h : SplitsBlock p.settings.markers left right before ⟨.bracketOpen, "(", ⟨21, 22⟩⟩
      ⟨.number, "+2", ⟨22, 24⟩⟩ after := by
    constructor
    case tokens => cbv
    case inside => decide +kernel
    case stop_le => decide +kernel
    case le_start => decide +kernel
  have hblank : ∀ c ∈ blanks.toList, isBlockBlank c = true :=
    List.all_eq_true.1 (by decide +kernel)
  have hold : (p.process (left ++ right)).run =
      .error ⟨.resolution (.unknownFunction "nope"), ⟨10, 27⟩⟩ := by cbv
  have hleft : Text.byteLength left.toList = 22 := by decide +kernel
  have hblanks : Text.byteLength blanks.toList = 4 := by decide +kernel
  have hmoved := congrArg Id.run (p.process_insert_blanks hp hparse h hblank).2
  rw [Id.run_map, hold, hleft, hblanks] at hmoved
  exact ⟨hp, hparse, h, hblank, hmoved⟩

end BlockTemplate.Processor
