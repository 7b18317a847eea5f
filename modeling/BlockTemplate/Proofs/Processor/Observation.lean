import BlockTemplate.Proofs.Processor.Dialogue

/-!
# What is seen of an expansion

The result of an expansion, the exchanges with the host and the state that is left are one value, so
that two expansions can be compared.

## Implementation notes

Result and state are those of the processor itself; only the exchanges are taken from the run behind
the recorder. `observe_of_run` says that the two runs agree.
-/

namespace BlockTemplate.Processor

variable {σ : Type}

/-- What is seen of an expansion: what comes of it, the exchanges that a recorder writes down on the
way, and the state that it leaves the host in. -/
structure Observation (σ : Type) where
  result : Except (Located TemplateError) String
  exchanges : List Exchange
  world : σ

/-- Expands a source, starting from a state of the host. -/
def observe (p : Processor (StateM σ)) (source : String) (world : σ) : Observation σ where
  result := ((p.process source).run world).run.1
  exchanges := (((p.recorded.process source).run []).run world).run.1.2
  world := ((p.process source).run world).run.2

theorem observe_of_parse_error {p : Processor (StateM σ)} {source : String}
    {e : Located TemplateError} (h : Template.parse p.settings.markers source = .error e)
    (world : σ) : p.observe source world = ⟨.error e, [], world⟩ := by
  simp only [observe, process, settings_recorded, h]
  rfl

/-- An expansion is seen as it runs behind the recorder. -/
theorem observe_of_run {p : Processor (StateM σ)} {source : String} {template : Template}
    (hparse : Template.parse p.settings.markers source = .ok template) {world world' : σ}
    {events : List Exchange} {result : Except (Located TemplateError) (List Char)}
    (hrun : ((((p.recorded.expand template).run.run []).run world).run =
      ((result, events), world'))) :
    p.observe source world = ⟨result.map String.ofList, events, world'⟩ := by
  obtain ⟨events', result', world'', hrecorded, hplain, -⟩ :=
    records_expand p (Template.spellable_of_parse hparse) [] world
  obtain ⟨⟨rfl, rfl⟩, rfl⟩ : (result' = result ∧ events' = events) ∧ world'' = world' := by
    simpa using hrecorded.symm.trans hrun
  simp only [observe, process, settings_recorded, hparse, StateT.run_bind, Id.run_bind, hrecorded,
    hplain]
  cases result' <;> rfl

end BlockTemplate.Processor
