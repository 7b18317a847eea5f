import BlockTemplate.Proofs.Processor.Relocation
import BlockTemplate.Proofs.Syntax.Junction

/-!
# Expanding a text after a template

Expansion goes node by node, so what a text expands to after a template is what each expands to
alone. Failures of the text are reported further on, by the bytes of the template.

## Implementation notes

Raw text expands to itself wherever it stands, and so does raw text that the junction makes one
node of. Spans reach nothing but the failures of blocks (`expansion_shift`).

Main statement: `process_append`.
-/

namespace BlockTemplate.Processor

/-- What a template expands to, or the first failure. -/
def expansion (p : Processor Id) (template : Template) :
    Except (Located TemplateError) (List Char) :=
  (p.expand template).run.run

theorem process_eq (p : Processor Id) (source : String) :
    (p.process source).run =
      (Template.parse p.settings.markers source).bind fun template =>
        (p.expansion template).map String.ofList := by
  unfold process
  cases Template.parse p.settings.markers source with
  | error e => rfl
  | ok template =>
      simp only [Except.bind, expansion, Id.run_bind]
      cases (p.expand template).run.run <;> rfl

theorem expansion_cons (p : Processor Id) (n : Placed) (rest : Template) :
    p.expansion (n :: rest) =
      (p.expandNode n).run.run.bind fun text => (p.expansion rest).map (text ++ ·) := by
  simp only [expansion, expand, ExceptT.run_bind, Id.run_bind]
  cases (p.expandNode n).run.run with
  | error e => rfl
  | ok text => cases hrest : (p.expand rest).run.run <;> simp [hrest, Except.bind, Except.map]

theorem expansion_append (p : Processor Id) (xs ys : Template) :
    p.expansion (xs ++ ys) =
      (p.expansion xs).bind fun text => (p.expansion ys).map (text ++ ·) := by
  induction xs with
  | nil =>
      change p.expansion ys = (p.expansion ys).map id
      rw [Except.map_id]
      rfl
  | cons n xs ih =>
      rw [List.cons_append, expansion_cons, expansion_cons, ih]
      cases (p.expandNode n).run.run with
      | error e => rfl
      | ok text =>
          cases p.expansion xs with
          | error e => rfl
          | ok more => cases p.expansion ys <;> simp [Except.bind, Except.map]

/-- Raw text expands to itself. -/
theorem expansion_rawNodes (p : Processor Id) (offset : Nat) (text : List Char) :
    p.expansion (rawNodes offset text) = .ok text := by
  by_cases htext : text = []
  · rw [rawNodes, if_pos htext, htext]
    rfl
  · have hnode : (p.expandNode ⟨.raw (String.ofList text),
        ⟨offset, offset + Text.byteLength text⟩⟩).run.run = .ok text :=
      congrArg Except.ok String.toList_ofList
    rw [rawNodes, if_neg htext, expansion_cons, hnode]
    exact congrArg Except.ok (List.append_nil text)

/-- Where nodes stand matters to failures alone. -/
theorem expansion_shift (p : Processor Id) (k : Nat) (template : Template) :
    p.expansion (template.map (Placed.shift k)) =
      (p.expansion template).mapError (Located.shift k) := by
  have hexpand := p.expand_relocate (· + k) (· + k) template
  exact congrArg (fun x => x.run.run) hexpand

/-- What a text expands to after a template. A failure to read the text comes first, then a failure
to expand the template, then one to expand the text; those of the text are further on by the bytes
of the template. Without a failure, the text of both is that of the first and then of the second. -/
theorem process_append (p : Processor Id) (hp : p.settings.markers.delimiters.Neutral)
    {source more : String} {template : Template}
    (h : Template.parse p.settings.markers source = .ok template)
    (hs : p.settings.markers.delimiters.opening.length = 1 ∨
      ¬Text.Straddles p.settings.markers.delimiters.opening source.toList more.toList) :
    (p.process (source ++ more)).run =
      match Template.parse p.settings.markers more, (p.process source).run,
        (p.process more).run with
      | .error e, _, _ => .error (e.shift (Text.byteLength source.toList))
      | .ok _, .error e, _ => .error e
      | .ok _, .ok _, .error e => .error (e.shift (Text.byteLength source.toList))
      | .ok _, .ok text, .ok rest => .ok (text ++ rest) := by
  have hacross : ¬Text.Straddles p.settings.markers.delimiters.opening source.toList
      more.toList := hs.elim Text.not_straddles_of_length_eq_one id
  obtain ⟨before, offset, tail, head, later, rfl, hmore, hboth⟩ :=
    Template.parse_append hp h hacross
  rw [process_eq, process_eq, process_eq, h, hmore, hboth]
  cases later with
  | error e => rfl
  | ok nodes =>
      have hsource : p.expansion (before ++ rawNodes offset tail) =
          (p.expansion before).map (· ++ tail) := by
        rw [expansion_append, expansion_rawNodes]
        rfl
      have htext : p.expansion (rawNodes 0 head ++ nodes) =
          (p.expansion nodes).map (head ++ ·) := by
        rw [expansion_append, expansion_rawNodes]
        rfl
      have hjoined : p.expansion (before ++ (rawNodes offset (tail ++ head) ++
          nodes.map (Placed.shift (Text.byteLength source.toList)))) =
            (p.expansion before).bind fun text => ((p.expansion nodes).mapError
              (Located.shift (Text.byteLength source.toList))).map
                fun rest => text ++ (tail ++ head ++ rest) := by
        rw [expansion_append, expansion_append, expansion_rawNodes, expansion_shift]
        cases p.expansion nodes <;> rfl
      simp only [Except.map, Except.mapError, Except.bind] at hsource htext hjoined ⊢
      rw [hsource, htext, hjoined]
      cases p.expansion before with
      | error e => rfl
      | ok text => cases p.expansion nodes <;> simp [String.append_assoc]

/-- Raw text on both sides of the junction, markers of two characters, and an unknown function in
the text after the template. -/
theorem process_append_unknown_function :
    let p : Processor Id := ⟨⟨⟨"<%", "%>"⟩, true, ", ", "%Y"⟩,
      [fun name _ => pure (.ok (if name = "name" then some (.string "Ada") else none))], [],
      default⟩
    let source := "Dear <%name%>, é"
    let more := "é <%'x'|nope%>"
    p.settings.markers.delimiters.Neutral ∧
      Template.parse p.settings.markers source = .ok [⟨.raw "Dear ", ⟨0, 5⟩⟩,
        ⟨.block ⟨false, .ident "name", []⟩, ⟨5, 13⟩⟩, ⟨.raw ", é", ⟨13, 17⟩⟩] ∧
      ¬Text.Straddles p.settings.markers.delimiters.opening source.toList more.toList ∧
      (p.process (source ++ more)).run =
        .error ⟨.resolution (.unknownFunction "nope"), ⟨20, 32⟩⟩ := by
  intro p source more
  have hp : p.settings.markers.delimiters.Neutral := by decide +kernel
  have hsource : Template.parse p.settings.markers source = .ok [⟨.raw "Dear ", ⟨0, 5⟩⟩,
      ⟨.block ⟨false, .ident "name", []⟩, ⟨5, 13⟩⟩, ⟨.raw ", é", ⟨13, 17⟩⟩] := by cbv
  have hs : ¬Text.Straddles p.settings.markers.delimiters.opening source.toList more.toList := by
    decide +kernel
  have hmore : Template.parse p.settings.markers more = .ok [⟨.raw "é ", ⟨0, 3⟩⟩,
      ⟨.block ⟨false, .string "x", [.ident "nope"]⟩, ⟨3, 15⟩⟩] := by cbv
  have hfirst : (p.process source).run = .ok "Dear Ada, é" := by cbv
  have hsecond : (p.process more).run =
      .error ⟨.resolution (.unknownFunction "nope"), ⟨3, 15⟩⟩ := by cbv
  have hlength : Text.byteLength source.toList = 17 := by decide +kernel
  have hboth := process_append p hp hsource (Or.inr hs)
  rw [hmore, hfirst, hsecond, hlength] at hboth
  exact ⟨hp, hsource, hs, hboth⟩

end BlockTemplate.Processor
