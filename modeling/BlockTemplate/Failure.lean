import BlockTemplate.Span
/-!
# Failures

Everything that can be wrong with a template, kept as causes. The wording of each cause stands in
one `message` function per family.
-/

namespace BlockTemplate

/-- A malformed character sequence inside a block. -/
inductive LexicalError where
  | unexpectedChar (char : Char)
  | unterminatedString
  | unsupportedEscape (char : Char)
  | interruptedEscape
  | ambiguousNumber (run : String)
  | loneSign (sign : Char)
  deriving DecidableEq, Repr

/-- A token sequence that is no template. -/
inductive SyntaxError where
  | unexpectedEnd (expected : String)
  | unexpectedToken (found expected : String)
  | emptyBlock
  deriving DecidableEq, Repr

/-- What a function reports instead of a value. -/
inductive FunctionError where
  | argumentCount (expected : Nat) (withInput : Bool)
  | invalidArgument (position : Nat) (expected : String)
  | failed (reason : String)
  deriving DecidableEq, Repr

/-- A failure while a block is evaluated. -/
inductive ResolutionError where
  | unknownFunction (name : String)
  | unresolvedVariable (name : String)
  | functionFailed (name : String) (cause : FunctionError)
  | variableResolverFailed (name : String) (reason : String)
  deriving DecidableEq, Repr

/-- A function that a processor refuses to register. -/
inductive RegistrationError where
  | invalidFunctionName (name : String)
  | functionAlreadyRegistered (name : String)
  deriving DecidableEq, Repr

/-- Any failure of scanning, reading or evaluating a template. -/
inductive TemplateError where
  | lexical (cause : LexicalError)
  | syntactic (cause : SyntaxError)
  | resolution (cause : ResolutionError)
  deriving DecidableEq, Repr

/-- A failure and the part of the template it is about. -/
structure Located (ε : Type) where
  error : ε
  span : Span
  deriving DecidableEq, Repr

namespace LexicalError

def message : LexicalError → String
  | unexpectedChar c => "Unexpected char: " ++ c.toString
  | unterminatedString => "Unexpected end of input, quoted string is unclosed"
  | unsupportedEscape c => "Unsupported escape sequence: \\" ++ c.toString
  | interruptedEscape => "Unexpected end of input: escape sequence interrupted"
  | ambiguousNumber run => "Identifier cannot start with a number: " ++ run
  | loneSign c => "Sign without digits: " ++ c.toString

end LexicalError

namespace SyntaxError

def message : SyntaxError → String
  | unexpectedEnd expected => "Unexpected end of input: " ++ expected ++ " expected"
  | unexpectedToken found expected => expected ++ " expected, but got this: " ++ found
  | emptyBlock => "Unexpected end of block: a block needs a variable, function or literal"

end SyntaxError

namespace FunctionError

/-- Ordinal words name the first three argument positions only. -/
def ordinal : Nat → String
  | 0 => "First"
  | 1 => "Second"
  | 2 => "Third"
  | _ => "An"

def message : FunctionError → String
  | argumentCount expected withInput =>
      "Invalid number of arguments: " ++ toString expected ++ " expected" ++
        if withInput then " (and first one is filter's input value)" else ""
  | invalidArgument position expected =>
      ordinal position ++ " argument is invalid: should be " ++ expected
  | failed reason => reason

end FunctionError

namespace ResolutionError

def message : ResolutionError → String
  | unknownFunction name => "Function " ++ name ++ " not found"
  | unresolvedVariable name =>
      "Cannot resolve variable named \"" ++ name ++ "\" (strict mode set)"
  | functionFailed name cause => "Error while calling function " ++ name ++ ": " ++ cause.message
  | variableResolverFailed name reason =>
      "Error while resolving variable " ++ name ++ ": " ++ reason

end ResolutionError

namespace RegistrationError

def message : RegistrationError → String
  | invalidFunctionName name =>
      "Cannot add a new function named " ++ name ++ ": this is an invalid name for a function"
  | functionAlreadyRegistered name =>
      "Cannot add a new function named " ++ name ++ ": function already registered"

end RegistrationError

namespace TemplateError

/-- The family a failure belongs to, as diagnoses and reports name it. -/
def family : TemplateError → String
  | lexical _ => "LexicalError"
  | syntactic _ => "SyntaxError"
  | resolution _ => "ResolutionError"

/-- The wording of the cause, without its family. -/
def causeMessage : TemplateError → String
  | lexical cause => cause.message
  | syntactic cause => cause.message
  | resolution cause => cause.message

def message (e : TemplateError) : String := e.family ++ ": " ++ e.causeMessage

end TemplateError

end BlockTemplate
