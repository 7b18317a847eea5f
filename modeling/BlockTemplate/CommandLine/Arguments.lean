/-!
# Arguments of the command line

The first argument names a command. After it stand the path of a template and options, in any
order. An option that takes a value has it in the same argument, after an equals sign, or in the
next one. Each is given once at most, and two dashes end the options.
-/

namespace BlockTemplate.CommandLine

inductive Command where
  | render
  | tokens
  | tree
  | check
  deriving DecidableEq, Repr

/-- Options that take a value. -/
inductive OptionName where
  | config
  | opening
  | closing
  | bindings
  | separator
  deriving DecidableEq, Repr

namespace Command

def all : List Command := [.render, .tokens, .tree, .check]

/-- The argument that names a command. -/
def word : Command → String
  | .render => "render"
  | .tokens => "tokens"
  | .tree => "ast"
  | .check => "check"

def ofWord? (word : String) : Option Command := all.find? fun c => c.word = word

def summary : Command → String
  | .render => "Expand a template"
  | .tokens => "Print the tokens of a template as JSON"
  | .tree => "Print the syntax tree of a template as JSON"
  | .check => "Check that a template parses"

/-- Options that a command takes. -/
def options : Command → List OptionName
  | .render => [.bindings, .separator, .config, .opening, .closing]
  | .tokens | .tree | .check => [.config, .opening, .closing]

end Command

namespace OptionName

/-- The name of an option, without the dashes before it. -/
def long : OptionName → String
  | .config => "config"
  | .opening => "open"
  | .closing => "close"
  | .bindings => "vars"
  | .separator => "separator"

end OptionName

/-- The option without a value that makes rendering strict. -/
def strictFlag : String := "strict"

/-- What is to be done with a template. -/
inductive Task where
  /-- Expand it; variables come from a file, and a separator may stand for the configured one. -/
  | render (bindings : Option String) (strict : Bool) (separator : Option String)
  | tokens
  | tree
  | check
  deriving DecidableEq, Repr

/-- A task with the template it is for and where its settings come from. -/
structure Request where
  task : Task
  path : String
  config : Option String
  opening : Option String
  closing : Option String
  deriving DecidableEq, Repr

/-- What is wrong with arguments. -/
inductive Misuse where
  | unknownCommand (word : String)
  | unexpected (argument : String)
  | repeated (option : String)
  | noValue (option : String)
  | needlessValue (option : String)
  | noPath
  deriving DecidableEq, Repr

def Misuse.message : Misuse → String
  | .unknownCommand word => "error: unrecognized subcommand '" ++ word ++ "'"
  | .unexpected argument => "error: unexpected argument '" ++ argument ++ "' found"
  | .repeated option =>
    "error: the argument '--" ++ option ++ "' cannot be used multiple times"
  | .noValue option =>
    "error: a value is required for '--" ++ option ++ "' but none was supplied"
  | .needlessValue option => "error: unexpected value for '--" ++ option ++ "' found"
  | .noPath => "error: the following required arguments were not provided: <PATH>"

/-- What arguments ask for. -/
inductive Invocation where
  | request (request : Request)
  | help (command : Option Command)
  | version
  /-- No arguments at all. -/
  | nothing
  | misuse (cause : Misuse)
  deriving DecidableEq, Repr

/-- What an argument looks like. -/
inductive Shape where
  /-- No option; a lone dash is one of these. -/
  | plain
  | endOfOptions
  | long (name : String) (value : Option String)
  | short (letters : List Char)
  deriving DecidableEq, Repr

/-- The name before an equals sign and the value after it. -/
def splitValue (cs : List Char) : String × Option String :=
  let name := String.ofList (cs.takeWhile (· ≠ '='))
  match cs.dropWhile (· ≠ '=') with
  | [] => (name, none)
  | _ :: value => (name, some (String.ofList value))

def Shape.of (argument : String) : Shape :=
  match argument.toList with
  | ['-', '-'] => .endOfOptions
  | '-' :: '-' :: rest => .long (splitValue rest).1 (splitValue rest).2
  | '-' :: c :: rest => .short (c :: rest)
  | _ => .plain

/-- What the next argument may be. -/
inductive Expectation where
  | anything
  /-- The value of an option. -/
  | value (option : OptionName)
  /-- A path: the options have ended. -/
  | path
  deriving DecidableEq, Repr

/-- Arguments of a command as far as they have been read. -/
structure Draft where
  expects : Expectation
  path : Option String
  strict : Bool
  options : List (OptionName × String)

namespace Draft

def empty : Draft := ⟨.anything, none, false, []⟩

def option? (d : Draft) (name : OptionName) : Option String :=
  (d.options.find? fun o => o.1 = name).map (·.2)

def addPath (d : Draft) (path : String) : Except Invocation Draft :=
  if d.path.isSome then .error (.misuse (.unexpected path)) else .ok { d with path := some path }

def addOption (d : Draft) (name : OptionName) (value : String) : Except Invocation Draft :=
  if (d.option? name).isSome then .error (.misuse (.repeated name.long))
  else .ok { d with expects := .anything, options := d.options ++ [(name, value)] }

def makeStrict (d : Draft) (value : Option String) : Except Invocation Draft :=
  if value.isSome then .error (.misuse (.needlessValue strictFlag))
  else if d.strict then .error (.misuse (.repeated strictFlag))
  else .ok { d with strict := true }

/-- Reads an option that has its name spelled out, and its value if that stands in the same
argument. -/
def readLong (c : Command) (d : Draft) (argument name : String) (value : Option String) :
    Except Invocation Draft :=
  if name = "help" then
    .error (if value.isSome then .misuse (.needlessValue name) else .help c)
  else if name = strictFlag ∧ c = .render then d.makeStrict value
  else
    match c.options.find? fun o => o.long = name, value with
    | none, _ => .error (.misuse (.unexpected argument))
    | some o, some value => d.addOption o value
    | some o, none => .ok { d with expects := .value o }

/-- Reads an argument, or finds that the arguments ask for something else. -/
def step (c : Command) (d : Draft) (argument : String) : Except Invocation Draft :=
  match d.expects, Shape.of argument with
  | .path, _ => d.addPath argument
  | .value o, .plain => d.addOption o argument
  | .value o, _ => .error (.misuse (.noValue o.long))
  | .anything, .plain => d.addPath argument
  | .anything, .endOfOptions => .ok { d with expects := .path }
  | .anything, .short ('h' :: _) => .error (.help c)
  | .anything, .short _ => .error (.misuse (.unexpected argument))
  | .anything, .long name value => d.readLong c argument name value

/-- The task of a command with its options. -/
def task (d : Draft) : Command → Task
  | .render => .render (d.option? .bindings) d.strict (d.option? .separator)
  | .tokens => .tokens
  | .tree => .tree
  | .check => .check

/-- What complete arguments ask for. -/
def invocation (d : Draft) (c : Command) : Invocation :=
  match d.expects, d.path with
  | .value o, _ => .misuse (.noValue o.long)
  | _, none => .misuse .noPath
  | _, some path =>
    .request ⟨d.task c, path, d.option? .config, d.option? .opening, d.option? .closing⟩

end Draft

namespace Invocation

/-- What the arguments after the word `help` ask for. -/
def ofHelp : List String → Invocation
  | [] => .help none
  | word :: rest =>
    match Command.ofWord? word, rest with
    | some c, [] => .help c
    | some _, next :: _ => .misuse (.unknownCommand next)
    | none, _ => if word = "help" then ofHelp rest else .misuse (.unknownCommand word)

/-- What an argument asks for that stands in the place of a command. -/
def ofShape (argument : String) : Shape → Invocation
  | .plain => .misuse (.unknownCommand argument)
  | .long "help" none | .short ('h' :: _) => .help none
  | .long "version" none | .short ('V' :: _) => .version
  | .endOfOptions | .long _ _ | .short _ => .misuse (.unexpected argument)

/-- What arguments ask for. -/
def ofArguments : List String → Invocation
  | [] | ["--"] => .nothing
  | word :: rest =>
    match Command.ofWord? word with
    | some c =>
      match rest.foldlM (Draft.step c) Draft.empty with
      | .ok d => d.invocation c
      | .error other => other
    | none => if word = "help" then ofHelp rest else ofShape word (.of word)

end Invocation

end BlockTemplate.CommandLine
