import BlockTemplate.Function.Builtin
import BlockTemplate.Settings
/-!
# Processors

A processor expands templates: it has settings, resolvers that are asked for variables in turn,
and functions registered over the built-in ones.

## Implementation notes

Resolvers and functions answer in a monad `m`, which holds whatever they keep or record. Everything
else is pure, so a processor over `Id` is one whose answers depend on the questions alone.
-/

namespace BlockTemplate

open Calendar (Moment)

/-- Answers to a variable name and the specifier after it: a value, nothing, or the reason why
asking failed. -/
abbrev Resolver (m : Type → Type) := String → Option String → m (Except String (Option Value))

/-- A function that answers in a monad. -/
abbrev HostFunction (m : Type → Type) :=
  Value → List Value → Formatting → m (Except FunctionError Value)

structure Processor (m : Type → Type) where
  settings : Settings
  /-- Resolvers in the order they are asked. -/
  resolvers : List (Resolver m)
  /-- Registered functions by their names in lower case, no two alike. -/
  functions : List (String × HostFunction m)
  /-- What the built-in function `now` answers. -/
  present : Moment

namespace Processor

variable {m : Type → Type}

/-- A processor that knows no variables and only built-in functions. -/
def new (settings : Settings) (present : Moment) : Processor m := ⟨settings, [], [], present⟩

/-- Adds a resolver that is asked after those already there. -/
def addResolver (p : Processor m) (r : Resolver m) : Processor m :=
  { p with resolvers := p.resolvers ++ [r] }

def setStrict (p : Processor m) (strict : Bool) : Processor m :=
  { p with settings := { p.settings with strict := strict } }

/-- The function registered under a name in lower case. -/
def registered? (p : Processor m) (key : String) : Option (HostFunction m) :=
  (p.functions.find? fun f => f.1 = key).map (·.2)

/-- Registers a function; a built-in one of the same name is hidden by it. -/
def addFunction (p : Processor m) (name : String) (f : HostFunction m) :
    Except RegistrationError (Processor m) :=
  let key := Text.lowerString name
  if !Function.isValidName key.toList then .error (.invalidFunctionName key)
  else if (p.registered? key).isSome then .error (.functionAlreadyRegistered key)
  else .ok { p with functions := p.functions ++ [(key, f)] }

/-- A name without blanks around it, in lower case. -/
def nameKey (name : String) : String := String.ofList (Text.lower (Text.trim name.toList))

/-- The function that a name stands for: a registered one, else a built-in one. -/
def function? [Monad m] (p : Processor m) (name : String) : Option (HostFunction m) :=
  let key := nameKey name
  match p.registered? key with
  | some f => some f
  | none =>
    (Builtin.find? key).map fun b input args f => pure (b.call p.present input args f)

end Processor

end BlockTemplate
