import BlockTemplate.CommandLine.Arguments
import BlockTemplate.CommandLine.Workspace
import BlockTemplate.Json.Reader
import BlockTemplate.Render
import BlockTemplate.Report
import BlockTemplate.Syntax.Json
import BlockTemplate.Toml.Reader
/-!
# The command line

Every request goes the same way: the template is read, then the settings, then the variables if it
is a template to expand, and only then is anything done. What cannot be read ends a run with code
2. A failure of the template ends it with code 1 and a report.

## Implementation notes

Reports are written by a `Reporter`, which may find that it cannot write one. The reports of this
library can always be written; what runs with other ones do is said by `runWith`.
-/

namespace BlockTemplate.CommandLine

open Calendar (Moment)

/-- What a run leaves behind. -/
structure Outcome where
  code : Nat
  stdout : String
  stderr : String
  deriving DecidableEq, Repr

/-- Why a request cannot be done. -/
inductive Trouble where
  | unreadable (name reason : String)
  | invalidConfig
  | invalidVariables
  /-- The template fails, and there is no report of that. -/
  | unreported (reason : String)
  deriving DecidableEq, Repr

def Trouble.message : Trouble → String
  | .unreadable name reason => "Could not read " ++ name ++ ": " ++ reason
  | .invalidConfig => "Invalid config: no TOML, or a setting of a wrong type"
  | .invalidVariables => "Invalid JSON: no single value"
  | .unreported reason => "Could not report error: " ++ reason

/-- Writes the report of a failure in a source of some name, or says why it cannot. -/
abbrev Reporter := Located TemplateError → String → String → Except String String

/-- Writes the reports of this library. -/
def Reporter.standard : Reporter := fun e name source => .ok (Report.render e name source)

variable {m : Type → Type} [Monad m]

/-- The text at a path. -/
def Host.read (h : Host m) (path : String) : ExceptT Trouble m String := do
  match ← ExceptT.lift (if path = inputPath then h.readInput else h.readFile path) with
  | .ok text => return text
  | .error reason => throw (.unreadable (if path = inputPath then inputName else path) reason)

/-- Settings from the text of a configuration file. -/
def settingsOfConfig? (text : String) : Option Settings := (Toml.parse? text).bind Settings.ofJson?

namespace Request

/-- The settings of the configuration file, with the markers given as arguments. -/
def settings (r : Request) (h : Host m) : ExceptT Trouble m Settings := do
  let base ← match r.config with
    | none => pure .standard
    | some path =>
      match settingsOfConfig? (← h.read path) with
      | some s => pure s
      | none => throw .invalidConfig
  return { base with
    markers := ⟨r.opening.getD base.markers.opening, r.closing.getD base.markers.closing⟩ }

/-- What every request reads: its template, and then its settings. -/
def sources (r : Request) (h : Host m) : ExceptT Trouble m (String × Settings) := do
  let source ← h.read r.path
  let settings ← r.settings h
  return (source, settings)

end Request

namespace Task

/-- The variables of a template; only a task that expands it reads them. Their doubles are found in
steps. -/
def bindings (t : Task) (h : Host m) : ExceptT Trouble m Json := do
  match t with
  | .render (some path) _ _ =>
    match Json.parse? .stepwise (← h.read path) with
    | some j => return j
    | none => throw .invalidVariables
  | _ => return .object []

/-- The settings of a processor, with those given as arguments. -/
def processorSettings (s : Settings) (strict : Bool) (separator : Option String) : Settings :=
  { s with strict := s.strict || strict, listSeparator := separator.getD s.listSeparator }

/-- JSON as it is printed. -/
def printed (j : Json) : String := j.pretty ++ "\n"

/-- What a task prints, or the failure of the template. -/
def result (t : Task) (present : Moment) (s : Settings) (source : String) (bindings : Json) :
    Except (Located TemplateError) String :=
  match t with
  | .render _ strict separator =>
    BlockTemplate.render present (processorSettings s strict separator) source bindings
  | .tokens =>
    match tokenize s.markers source with
    | .ok found => .ok (printed (.array (found.map Token.toJson)))
    | .error e => .error ⟨.lexical e.error, e.span⟩
  | .tree => (Template.parse s.markers source).map fun t => printed t.toJson
  | .check => (Template.parse s.markers source).map fun _ => ""

end Task

namespace Outcome

/-- The outcome of a task on a template of the given path. -/
def ofResult (report : Reporter) (path source : String) :
    Except (Located TemplateError) String → Except Trouble Outcome
  | .ok text => .ok ⟨0, text, ""⟩
  | .error e =>
    match report e path source with
    | .ok text => .ok ⟨1, "", text⟩
    | .error reason => .error (.unreported reason)

/-- The outcome of a request that cannot be done. -/
def refused (message : String) : Outcome := ⟨2, "", message ++ "\n"⟩

/-- The outcome of a request, done or not. -/
def ofDone : Except Trouble Outcome → Outcome
  | .ok outcome => outcome
  | .error trouble => refused trouble.message

end Outcome

/-- Does a request, unless there is trouble. -/
def Request.perform (r : Request) (report : Reporter) (h : Host m) (present : Moment) :
    ExceptT Trouble m Outcome := do
  let (source, settings) ← r.sources h
  let bindings ← r.task.bindings h
  ofExcept (Outcome.ofResult report r.path source
    (r.task.result present settings source bindings))

/-- Does a request. -/
def Request.run (r : Request) (report : Reporter) (h : Host m) (present : Moment) : m Outcome := do
  return Outcome.ofDone (← (r.perform report h present).run)

/-- The name of the program in its own texts. -/
def programName : String := "blocktemplate"

/-- How a command is used. -/
def commandHelp (c : Command) : String :=
  let values := c.options.map fun o => " [--" ++ o.long ++ " <VALUE>]"
  let flags := if c = .render then " [--" ++ strictFlag ++ "]" else ""
  c.summary ++ "\n\nUsage: " ++ programName ++ " " ++ c.word ++ flags ++ String.join values ++
    " <PATH>\n"

/-- How the program is used. -/
def programHelp : String :=
  "Render and inspect templates\n\nUsage: " ++ programName ++ " <COMMAND>\n\nCommands:\n" ++
    String.join (Command.all.map fun c => "  " ++ c.word ++ "  " ++ c.summary ++ "\n")

/-- Does what arguments ask for, with a reporter. -/
def runWith (report : Reporter) (h : Host m) (present : Moment) (arguments : List String) :
    m Outcome :=
  match Invocation.ofArguments arguments with
  | .request r => r.run report h present
  | .help (some c) => return ⟨0, commandHelp c, ""⟩
  | .help none => return ⟨0, programHelp, ""⟩
  | .version => return ⟨0, programName ++ " 0.1.0\n", ""⟩
  | .nothing => return ⟨2, "", programHelp⟩
  | .misuse cause => return .refused cause.message

/-- Does what arguments ask for. -/
def run (h : Host m) (present : Moment) (arguments : List String) : m Outcome :=
  runWith .standard h present arguments

end BlockTemplate.CommandLine
