import BlockTemplate.CommandLine.Arguments
import Mathlib.Data.List.Basic

/-!
# Arguments for a request

Every request can be asked for, whatever its texts are: an option is written with its value in one
argument, and the path stands after the end of the options, where nothing is taken for an option.

Main statement: `Invocation.ofArguments_arguments`.
-/

namespace BlockTemplate.CommandLine

variable {c : Command} {d : Draft} {o : OptionName}

/-! ### One option -/

/-- An option with its value in the same argument. -/
def OptionName.spell (o : OptionName) (value : String) : String :=
  "--" ++ o.long ++ "=" ++ value

theorem Shape.of_spell (o : OptionName) (value : String) :
    Shape.of (o.spell value) = .long o.long (some value) := by
  cases o <;> simp [Shape.of, OptionName.spell, OptionName.long, splitValue]

/-- The options of a command have different names, none of which means anything else. -/
theorem Command.find?_options (ho : o ∈ c.options) :
    (c.options.find? fun other => other.long = o.long) = some o ∧ o.long ≠ "help" ∧
      o.long ≠ strictFlag := by
  revert ho
  cases c <;> cases o <;> decide

namespace Draft

/-- An option of the command that has not been given yet is taken with its value. -/
theorem step_spell {value : String} (hd : d.expects = .anything) (ho : o ∈ c.options)
    (hfresh : d.option? o = none) :
    d.step c (o.spell value) = .ok { d with options := d.options ++ [(o, value)] } := by
  obtain ⟨hfind, hhelp, hstrict⟩ := Command.find?_options ho
  have hadd : d.addOption o value = .ok { d with options := d.options ++ [(o, value)] } := by
    rw [addOption, hfresh, ← hd]
    rfl
  rw [← hadd, step, hd, Shape.of_spell]
  simp only [readLong, hhelp, hstrict, hfind, if_false, false_and]

theorem option?_append (d : Draft) (name : OptionName) (more : List (OptionName × String)) :
    { d with options := d.options ++ more }.option? name =
      (d.option? name).or ((more.find? fun x => x.1 = name).map (·.2)) := by
  simp only [option?, List.find?_append]
  cases d.options.find? fun x => x.1 = name <;> rfl

end Draft

/-! ### All options -/

/-- The options that have a value, in the order of their names. -/
def given (value : OptionName → Option String) (names : List OptionName) :
    List (OptionName × String) :=
  names.filterMap fun o => (value o).map (o, ·)

theorem find?_given (value : OptionName → Option String) (names : List OptionName)
    (o : OptionName) : ((given value names).find? fun x => x.1 = o) =
      if o ∈ names then (value o).map (o, ·) else none := by
  induction names with
  | nil => rfl
  | cons first rest ih =>
    by_cases heq : first = o
    · subst heq
      cases hvalue : value first <;> simp_all [given]
    · cases hvalue : value first <;> simp_all [given, Ne.symm heq]

namespace Draft

/-- Options of the command that have not been given yet are taken with their values. -/
theorem foldlM_given {value : OptionName → Option String} {names : List OptionName}
    (hd : d.expects = .anything) (hnames : ∀ o ∈ names, o ∈ c.options) (hnodup : names.Nodup)
    (hfresh : ∀ o ∈ names, d.option? o = none) :
    ((given value names).map fun x => x.1.spell x.2).foldlM (step c) d =
      .ok { d with options := d.options ++ given value names } := by
  induction names generalizing d with
  | nil => simp [given, pure, Except.pure]
  | cons o rest ih =>
    obtain ⟨ho, hrest⟩ := List.forall_mem_cons.1 hnames
    obtain ⟨hfresh, hfreshRest⟩ := List.forall_mem_cons.1 hfresh
    obtain ⟨hnew, hnodup⟩ := List.nodup_cons.1 hnodup
    cases hvalue : value o with
    | none => simpa [given, hvalue] using ih hd hrest hnodup hfreshRest
    | some v =>
      have hstep : d.step c (o.spell v) = .ok { d with options := d.options ++ [(o, v)] } :=
        step_spell hd ho hfresh
      have hlater : ∀ o' ∈ rest, { d with options := d.options ++ [(o, v)] }.option? o' = none := by
        intro o' ho'
        have hne : o ≠ o' := fun heq => hnew (heq ▸ ho')
        rw [option?_append, hfreshRest o' ho']
        simp [hne]
      have hih := ih (d := { d with options := d.options ++ [(o, v)] }) hd hrest hnodup hlater
      rw [show given value (o :: rest) = (o, v) :: given value rest by simp [given, hvalue],
        List.map_cons, List.foldlM_cons, hstep]
      change List.foldlM (step c) _ _ = _
      rw [hih, List.append_assoc]
      rfl

end Draft

/-! ### A whole request -/

namespace Task

def command : Task → Command
  | .render .. => .render
  | .tokens => .tokens
  | .tree => .tree
  | .check => .check

def isStrict : Task → Bool
  | .render _ strict _ => strict
  | .tokens | .tree | .check => false

end Task

namespace Request

/-- The values that a request has for options. -/
def value? (r : Request) : OptionName → Option String
  | .config => r.config
  | .opening => r.opening
  | .closing => r.closing
  | .bindings =>
    match r.task with
    | .render file _ _ => file
    | .tokens | .tree | .check => none
  | .separator =>
    match r.task with
    | .render _ _ separator => separator
    | .tokens | .tree | .check => none

/-- Arguments that ask for a request. -/
def arguments (r : Request) : List String :=
  r.task.command.word :: ((if r.task.isStrict then ["--" ++ strictFlag] else []) ++
    (given r.value? r.task.command.options).map (fun o => o.1.spell o.2) ++ ["--", r.path])

/-- What has been read once all arguments for a request have been. -/
def draft (r : Request) : Draft :=
  ⟨.path, some r.path, r.task.isStrict, given r.value? r.task.command.options⟩

theorem option?_draft (r : Request) (name : OptionName) : r.draft.option? name =
    if name ∈ r.task.command.options then r.value? name else none := by
  rw [Draft.option?, draft, find?_given]
  split
  · cases r.value? name <;> rfl
  · rfl

theorem invocation_draft (r : Request) : r.draft.invocation r.task.command = .request r := by
  change Invocation.request ⟨r.draft.task r.task.command, r.path, r.draft.option? .config,
    r.draft.option? .opening, r.draft.option? .closing⟩ = _
  obtain ⟨task, path, config, opening, closing⟩ := r
  cases task <;> simp [Draft.task, option?_draft, Task.command, Command.options, value?]
  rfl

theorem foldlM_arguments (r : Request) :
    r.arguments.tail.foldlM (Draft.step r.task.command) Draft.empty = .ok r.draft := by
  have hflags : (if r.task.isStrict then ["--" ++ strictFlag] else []).foldlM
      (Draft.step r.task.command) Draft.empty =
        .ok { Draft.empty with strict := r.task.isStrict } := by
    rcases r with ⟨_ | _ | _ | _, path, config, opening, closing⟩
    case render file strict separator => cases strict <;> rfl
    all_goals rfl
  have hoptions : ((given r.value? r.task.command.options).map fun o => o.1.spell o.2).foldlM
      (Draft.step r.task.command) { Draft.empty with strict := r.task.isStrict } =
        .ok { Draft.empty with
          strict := r.task.isStrict
          options := [] ++ given r.value? r.task.command.options } := by
    apply Draft.foldlM_given rfl (fun _ ho => ho)
    · cases r.task.command <;> decide
    · exact fun _ _ => rfl
  rw [arguments, List.tail_cons, List.foldlM_append, List.foldlM_append, hflags]
  change (List.foldlM _ _ _ >>= _) = _
  rw [hoptions]
  rfl

end Request

/-- The arguments for a request ask for it. -/
theorem Invocation.ofArguments_arguments (r : Request) :
    ofArguments r.arguments = .request r := by
  have hword : Command.ofWord? r.task.command.word = some r.task.command := by
    cases r.task.command <;> decide
  have hdashes : r.task.command.word ≠ "--" := by
    cases r.task.command <;> decide
  have hfold := r.foldlM_arguments
  rw [Request.arguments, List.tail_cons] at hfold
  rw [Request.arguments, ofArguments, hword]
  · simp only [hfold, r.invocation_draft]
  · intro heq _
    exact hdashes heq

end BlockTemplate.CommandLine
