import BlockTemplate.CommandLine
import BlockTemplate.Proofs.CommandLine.Spelling
import BlockTemplate.Proofs.Processor.FailureSpan

/-!
# How the commands agree

The commands read the same things before they do anything, and each of them stops at the first
failure of the template. So on the same template and settings one command tells what another one
will do: a template that is refused by one is refused by all, a template that cannot be scanned
cannot be read, and one that cannot be read cannot be expanded.

## Implementation notes

Each command runs over a host of its own in the same state. What a failed command writes is the
report of a failure; that there is one rests on the spans of failures, which cover a part of the
source. Reporters are asked for no more than that (`Reporter.Reaches`).

Main statement: `commands_agree`.
-/

namespace BlockTemplate.CommandLine

open Calendar (Moment)

/-- Whether there is a report of every failure that covers a part of its source. -/
def Reporter.Reaches (report : Reporter) : Prop :=
  ∀ (e : Located TemplateError) (name source : String) (part : List Char),
    e.span.Covers source.toList part → ∃ text, report e name source = .ok text

theorem Reporter.reaches_standard : Reporter.standard.Reaches := by
  intro e name source part _
  exact ⟨Report.render e name source, rfl⟩

variable {σ : Type} {h : Host (StateM σ)} {report : Reporter} {present : Moment} {world between : σ}

/-! ### Outcomes -/

namespace Outcome

theorem stdout_of_code_ne_zero {path source : String}
    {result : Except (Located TemplateError) String}
    (hcode : (ofDone (ofResult report path source result)).code ≠ 0) :
    (ofDone (ofResult report path source result)).stdout = "" := by
  cases result with
  | ok text => exact absurd rfl hcode
  | error e =>
    rw [ofResult]
    cases report e path source <;> rfl

end Outcome

/-! ### Steps of a request -/

theorem run_bind_of_error {ε α β : Type} {x : ExceptT ε (StateM σ) α}
    {g : α → ExceptT ε (StateM σ) β} {e : ε} (hx : x.run.run world = (.error e, between)) :
    (x >>= g).run.run world = (.error e, between) := by
  rw [ExceptT.run_bind, StateT.run_bind, hx]
  rfl

namespace Request

variable {r : Request} {source : String} {settings : Settings}

/-- A request whose template or settings cannot be read is not done. -/
theorem run_of_sources_error {trouble : Trouble}
    (hsources : (r.sources h).run.run world = (.error trouble, between)) :
    ((r.run report h present).run world).1 = .refused trouble.message := by
  have hperform : (r.perform report h present).run.run world = (.error trouble, between) :=
    run_bind_of_error hsources
  change Outcome.ofDone ((r.perform report h present).run.run world).1 = _
  rw [hperform]
  rfl

/-- A request that gets no variables is not done. -/
theorem run_of_bindings_error {trouble : Trouble} {between' : σ}
    (hsources : (r.sources h).run.run world = (.ok (source, settings), between))
    (hbindings : (r.task.bindings h).run.run between = (.error trouble, between')) :
    ((r.run report h present).run world).1 = .refused trouble.message := by
  have hperform : (r.perform report h present).run.run world = (.error trouble, between') := by
    rw [perform, Processor.run_bind_eq_ok hsources]
    exact run_bind_of_error hbindings
  change Outcome.ofDone ((r.perform report h present).run.run world).1 = _
  rw [hperform]
  rfl

/-- A request that has read all it needs has the outcome of its result. -/
theorem run_of_bindings_ok {values : Json} {between' : σ}
    (hsources : (r.sources h).run.run world = (.ok (source, settings), between))
    (hbindings : (r.task.bindings h).run.run between = (.ok values, between')) :
    ((r.run report h present).run world).1 =
      Outcome.ofDone (Outcome.ofResult report r.path source
        (r.task.result present settings source values)) := by
  have hperform : (r.perform report h present).run.run world =
      (Outcome.ofResult report r.path source (r.task.result present settings source values),
        between') := by
    rw [perform, Processor.run_bind_eq_ok hsources]
    dsimp only
    rw [Processor.run_bind_eq_ok hbindings]
    cases Outcome.ofResult report r.path source (r.task.result present settings source values) <;>
      rfl
  change Outcome.ofDone ((r.perform report h present).run.run world).1 = _
  rw [hperform]

/-- Only a request that has been done prints anything. -/
theorem stdout_of_code_ne_zero
    (hcode : ((r.run report h present).run world).1.code ≠ 0) :
    ((r.run report h present).run world).1.stdout = "" := by
  rcases hsources : (r.sources h).run.run world with ⟨trouble | ⟨source, settings⟩, between⟩
  · rw [run_of_sources_error hsources]
    rfl
  rcases hbindings : (r.task.bindings h).run.run between with ⟨trouble | values, between'⟩
  · rw [run_of_bindings_error hsources hbindings]
    rfl
  · rw [run_of_bindings_ok hsources hbindings] at hcode ⊢
    exact Outcome.stdout_of_code_ne_zero hcode

end Request

/-! ### Results of tasks -/

namespace Task

variable {settings : Settings} {source : String} {e : Located TemplateError}

/-- A template that cannot be scanned cannot be read, for the same reason. -/
theorem parse_of_tokens_error {values : Json}
    (htokens : Task.tokens.result present settings source values = .error e) :
    Template.parse settings.markers source = .error e := by
  rw [Template.parse]
  simp only [result] at htokens
  cases hfound : tokenize settings.markers source with
  | error refusal =>
    rw [hfound] at htokens
    rw [← Except.error.inj htokens]
  | ok found =>
    rw [hfound] at htokens
    cases htokens

/-- No task but scanning does anything with a template that cannot be read. -/
theorem result_of_parse_error {t : Task} (ht : t ≠ .tokens)
    (hparse : Template.parse settings.markers source = .error e) (values : Json) :
    t.result present settings source values = .error e := by
  cases t with
  | tokens => exact absurd rfl ht
  | tree | check =>
    rw [result, hparse]
    rfl
  | render file strict separator =>
    change (Id.run ((Processor.over (.ofJson values) (processorSettings settings strict separator)
      present).process source)) = _
    have hmarkers : (Processor.over (m := Id) (.ofJson values)
        (processorSettings settings strict separator) present).settings.markers =
          settings.markers := rfl
    rw [Processor.process, hmarkers, hparse]
    rfl

end Task

/-! ### What is known of all tasks at once -/

namespace Request

variable {r : Request}

/-- If a file of variables is given, then it has them when its turn comes: after the template and
the settings have been read. -/
def HasVariables (r : Request) (h : Host (StateM σ)) (world : σ) (file : Option String) : Prop :=
  ∀ path ∈ file, ∀ found between, (r.sources h).run.run world = (.ok found, between) →
    ∃ text values between', (h.read path).run.run between = (.ok text, between') ∧
      Json.parse? .stepwise text = some values

theorem HasVariables.run_bindings {file : Option String} {strict : Bool}
    {separator : Option String} {found : String × Settings} (hfile : r.HasVariables h world file)
    (hsources : (r.sources h).run.run world = (.ok found, between)) :
    ∃ values between', ((Task.render file strict separator).bindings h).run.run between =
      (.ok values, between') := by
  cases file with
  | none => exact ⟨.object [], between, rfl⟩
  | some path =>
    obtain ⟨text, values, between', hread, hparse⟩ := hfile path rfl found between hsources
    refine ⟨values, between', ?_⟩
    rw [Task.bindings, Processor.run_bind_eq_ok hread, hparse]
    rfl

end Request

/-- How far a template gets: the outcomes of all tasks on it, with the files of variables that can
be read. -/
inductive Verdict (outcome : Task → Outcome) (readable : Option String → Prop) : Prop where
  /-- The template or its settings cannot be read. -/
  | refused (message : String) (hall : ∀ t, outcome t = .refused message)
  /-- The template cannot be read as a tree; scanning it fails for the same reason or not at all. -/
  | failed (text : String) (hcheck : outcome .check = ⟨1, "", text⟩)
      (htree : outcome .tree = ⟨1, "", text⟩)
      (htokens : (outcome .tokens).code = 0 ∨ outcome .tokens = ⟨1, "", text⟩)
      (hrender : ∀ file strict separator, readable file →
        outcome (.render file strict separator) = ⟨1, "", text⟩)
      (hnever : ∀ file strict separator, (outcome (.render file strict separator)).code ≠ 0)
  | done (htokens : (outcome .tokens).code = 0) (htree : (outcome .tree).code = 0)
      (hcheck : (outcome .check).code = 0)

/-- What tasks on the same template say of each other, with the files of variables that can be
read. -/
structure Agreement (outcome : Task → Outcome) (readable : Option String → Prop) : Prop where
  refused_tree : (outcome .tree).code = 2 ↔ (outcome .tokens).code = 2
  refused_check : (outcome .check).code = 2 ↔ (outcome .tokens).code = 2
  done_check : (outcome .check).code = 0 ↔ (outcome .tree).code = 0
  done_tokens : (outcome .check).code = 0 → (outcome .tokens).code = 0
  failed_tokens : (outcome .tokens).code = 1 → ∀ t ∈ [Task.tree, Task.check],
    (outcome t).code = 1 ∧ (outcome t).stderr = (outcome .tokens).stderr
  failed_check : ∀ file strict separator, (outcome .check).code = 1 → readable file →
    (outcome (.render file strict separator)).code = 1 ∧
      (outcome (.render file strict separator)).stderr = (outcome .check).stderr
  done_render : ∀ file strict separator, (outcome (.render file strict separator)).code = 0 →
    (outcome .check).code = 0
  /-- Nothing is printed unless all goes well. -/
  silent : ∀ t, (outcome t).code ≠ 0 → (outcome t).stdout = ""

theorem Verdict.agreement {outcome : Task → Outcome} {readable : Option String → Prop}
    (hverdict : Verdict outcome readable)
    (hsilent : ∀ t, (outcome t).code ≠ 0 → (outcome t).stdout = "") :
    Agreement outcome readable := by
  cases hverdict with
  | refused message hall => constructor <;> simp [hall, Outcome.refused]
  | failed text hcheck htree htokens hrender hnever =>
    refine ⟨?_, ?_, ?_, ?_, ?_, ?_, ?_, hsilent⟩
    · rcases htokens with htokens | htokens <;> simp [htree, htokens]
    · rcases htokens with htokens | htokens <;> simp [hcheck, htokens]
    · simp [hcheck, htree]
    · simp [hcheck]
    · rcases htokens with htokens | htokens <;> simp [hcheck, htree, htokens]
    · intro file strict separator _ hfile
      simp [hrender file strict separator hfile, hcheck]
    · intro file strict separator hdone
      exact absurd hdone (hnever file strict separator)
  | done htokens htree hcheck =>
    exact ⟨by simp [htree, htokens], by simp [hcheck, htokens], by simp [hcheck, htree],
      fun _ => htokens, by simp [htokens], by simp [hcheck], fun _ _ _ _ => hcheck, hsilent⟩

namespace Request

variable {r : Request} {source : String} {settings : Settings} {presents : Task → Moment}

/-- Tasks other than expanding read nothing but the template and the settings. -/
theorem run_of_sources_ok {t : Task} (ht : t ∈ [Task.tokens, .tree, .check])
    (hsources : (r.sources h).run.run world = (.ok (source, settings), between)) :
    (({ r with task := t }.run report h present).run world).1 =
      Outcome.ofDone (Outcome.ofResult report r.path source
        (t.result present settings source (.object []))) := by
  have hbindings : (t.bindings h).run.run between = (.ok (.object []), between) := by
    simp only [List.mem_cons, List.not_mem_nil, or_false] at ht
    rcases ht with rfl | rfl | rfl <;> rfl
  exact run_of_bindings_ok (r := { r with task := t }) hsources hbindings

/-- A template that cannot be read as a tree fails every task, except that scanning it may do. -/
theorem verdict_of_parse_error {e : Located TemplateError} (hreport : report.Reaches)
    (hsources : (r.sources h).run.run world = (.ok (source, settings), between))
    (hparse : Template.parse settings.markers source = .error e) :
    Verdict (fun t => (({ r with task := t }.run report h (presents t)).run world).1)
      (r.HasVariables h world) := by
  obtain ⟨part, hcovers, -⟩ := Template.covers_of_parse_error hparse
  obtain ⟨text, htext⟩ := hreport e r.path source part hcovers
  have hfailed : Outcome.ofDone (Outcome.ofResult report r.path source (.error e)) =
      ⟨1, "", text⟩ := by
    rw [Outcome.ofResult, htext]
    rfl
  have hrun {t : Task} {values : Json} {between' : σ} (ht : t ≠ .tokens)
      (hbindings : (t.bindings h).run.run between = (.ok values, between')) :
      (({ r with task := t }.run report h (presents t)).run world).1 = ⟨1, "", text⟩ := by
    rw [run_of_bindings_ok (r := { r with task := t }) hsources hbindings,
      Task.result_of_parse_error ht hparse, hfailed]
  refine .failed text (hrun (by decide) rfl) (hrun (by decide) rfl) ?_ ?_ ?_
  · rw [run_of_sources_ok (by simp) hsources]
    cases htokens : Task.tokens.result (presents .tokens) settings source (.object []) with
    | ok found => exact .inl rfl
    | error e' =>
      obtain rfl : e = e' :=
        Except.error.inj (hparse.symm.trans (Task.parse_of_tokens_error htokens))
      exact .inr hfailed
  · intro file strict separator hfile
    obtain ⟨values, between', hbindings⟩ := hfile.run_bindings hsources
    exact hrun (by simp) hbindings
  · intro file strict separator
    rcases hbindings : ((Task.render file strict separator).bindings h).run.run between with
      ⟨trouble | values, between'⟩
    · rw [run_of_bindings_error (r := { r with task := .render file strict separator }) hsources
        hbindings]
      exact (by decide : 2 ≠ 0)
    · rw [hrun (by simp) hbindings]
      exact (by decide : 1 ≠ 0)

/-- The tasks of a request come to one verdict. -/
theorem verdict (hreport : report.Reaches) (r : Request) (h : Host (StateM σ))
    (presents : Task → Moment) (world : σ) :
    Verdict (fun t => (({ r with task := t }.run report h (presents t)).run world).1)
      (r.HasVariables h world) := by
  rcases hsources : (r.sources h).run.run world with ⟨trouble | ⟨source, settings⟩, between⟩
  · exact .refused trouble.message fun t => run_of_sources_error hsources
  cases hparse : Template.parse settings.markers source with
  | error e => exact verdict_of_parse_error hreport hsources hparse
  | ok template =>
    refine .done ?_ ?_ ?_ <;> rw [run_of_sources_ok (by simp) hsources]
    · cases htokens : Task.tokens.result (presents .tokens) settings source (.object []) with
      | ok found => rfl
      | error e => cases hparse.symm.trans (Task.parse_of_tokens_error htokens)
    all_goals
      rw [Task.result, hparse]
      rfl

end Request

theorem runWith_of_request {r : Request} {arguments : List String}
    (hasks : Invocation.ofArguments arguments = .request r) :
    runWith report h present arguments = r.run report h present := by
  rw [runWith, hasks]

/-- On the same template and settings, the commands agree. Their arguments may ask for that in any
way, and each command may run at a moment of its own. -/
theorem commands_agree (hreport : report.Reaches) (r : Request) (arguments : Task → List String)
    (hasks : ∀ t, Invocation.ofArguments (arguments t) = .request { r with task := t })
    (h : Host (StateM σ)) (presents : Task → Moment) (world : σ) :
    Agreement (fun t => ((runWith report h (presents t) (arguments t)).run world).1)
      (r.HasVariables h world) := by
  have hrun (t : Task) : runWith report h (presents t) (arguments t) =
      { r with task := t }.run report h (presents t) := runWith_of_request (hasks t)
  simp only [hrun]
  exact (r.verdict hreport h presents world).agreement fun t => Request.stdout_of_code_ne_zero

/-- A template whose block is not closed, with settings from a file that has other markers than the
arguments, and variables from the standard input. -/
theorem commands_agree_on_open_block :
    let r : Request := ⟨.check, "page", some "site.toml", some "[", none⟩
    let arguments (t : Task) := { r with task := t }.arguments
    let world : Workspace := ⟨[("page", "[a"), ("site.toml", "")], "\x7b\x7d"⟩
    let outcome (t : Task) :=
      ((runWith .standard Workspace.host default (arguments t)).run world).1
    Reporter.standard.Reaches ∧
      (∀ t, Invocation.ofArguments (arguments t) = .request { r with task := t }) ∧
      Agreement outcome (r.HasVariables Workspace.host world) ∧
      r.HasVariables Workspace.host world (some "-") ∧ (outcome .check).code = 1 := by
  intro r arguments world outcome
  have hasks (t : Task) : Invocation.ofArguments (arguments t) = .request { r with task := t } :=
    Invocation.ofArguments_arguments { r with task := t }
  have hagree : Agreement outcome (r.HasVariables Workspace.host world) :=
    commands_agree Reporter.reaches_standard r arguments hasks Workspace.host (fun _ => default)
      world
  let settings : Settings := { Settings.standard with markers := ⟨"[", "\x7d"⟩ }
  have hsources : (r.sources Workspace.host).run.run world = (.ok ("[a", settings), world) := by
    cbv
  have hparse : Template.parse ⟨"[", "\x7d"⟩ "[a" =
      .error ⟨.syntactic (.unexpectedEnd "block ending"), ⟨2, 2⟩⟩ := by cbv
  have hvariables : r.HasVariables Workspace.host world (some "-") := by
    intro path hpath found between hfound
    obtain rfl := Option.mem_some_iff.1 hpath
    obtain ⟨-, rfl⟩ := Prod.mk.inj (hsources.symm.trans hfound)
    exact ⟨"\x7b\x7d", .object [], { world with input := "" }, rfl, by cbv⟩
  have hresult : Task.check.result default settings "[a" (.object []) =
      .error ⟨.syntactic (.unexpectedEnd "block ending"), ⟨2, 2⟩⟩ :=
    Task.result_of_parse_error (by decide) hparse _
  have hcode : (outcome .check).code = 1 := by
    simp only [outcome]
    rw [runWith_of_request (hasks .check), Request.run_of_sources_ok (r := r) (by simp) hsources,
      hresult]
    rfl
  exact ⟨Reporter.reaches_standard, hasks, hagree, hvariables, hcode⟩

end BlockTemplate.CommandLine
