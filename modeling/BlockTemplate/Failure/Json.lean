import BlockTemplate.Failure
import BlockTemplate.Json.Decode
/-!
# Failures as JSON

Each cause is tagged with its name; causes that say nothing more are the bare name.
-/

namespace BlockTemplate

namespace LexicalError

def toJson : LexicalError → Json
  | unexpectedChar c => .tagged "UnexpectedChar" (.string c.toString)
  | unterminatedString => .string "UnterminatedString"
  | unsupportedEscape c => .tagged "UnsupportedEscape" (.string c.toString)
  | interruptedEscape => .string "InterruptedEscape"
  | ambiguousNumber run => .tagged "AmbiguousNumber" (.string run)
  | loneSign c => .tagged "LoneSign" (.string c.toString)

def ofJson? (j : Json) : Option LexicalError := do
  let (name, carried) ← j.variant?
  match name, carried with
  | "UnexpectedChar", some value => value.char?.map unexpectedChar
  | "UnsupportedEscape", some value => value.char?.map unsupportedEscape
  | "AmbiguousNumber", some value => value.string?.map ambiguousNumber
  | "LoneSign", some value => value.char?.map loneSign
  | "UnterminatedString", _ => if Json.isNothing carried then some unterminatedString else none
  | "InterruptedEscape", _ => if Json.isNothing carried then some interruptedEscape else none
  | _, _ => none

end LexicalError

namespace SyntaxError

def toJson : SyntaxError → Json
  | unexpectedEnd expected => .tagged "UnexpectedEnd" (.object [("expected", .string expected)])
  | unexpectedToken found expected =>
    .tagged "UnexpectedToken" (.object [("found", .string found), ("expected", .string expected)])
  | emptyBlock => .string "EmptyBlock"

def ofJson? (j : Json) : Option SyntaxError := do
  let (name, carried) ← j.variant?
  match name, carried with
  | "UnexpectedEnd", some value =>
    match value.members? ["expected"] with
    | some [expected] => expected.string?.map unexpectedEnd
    | _ => none
  | "UnexpectedToken", some value =>
    match value.members? ["found", "expected"] with
    | some [found, expected] => do return unexpectedToken (← found.string?) (← expected.string?)
    | _ => none
  | "EmptyBlock", _ => if Json.isNothing carried then some emptyBlock else none
  | _, _ => none

end SyntaxError

namespace FunctionError

def toJson : FunctionError → Json
  | argumentCount expected withInput =>
    .tagged "ArgumentCount" (.object [("expected", .nat expected), ("with_input", .bool withInput)])
  | invalidArgument position expected =>
    .tagged "InvalidArgument"
      (.object [("position", .nat position), ("expected", .string expected)])
  | failed reason => .tagged "Failed" (.string reason)

def ofJson? (j : Json) : Option FunctionError := do
  let (name, carried) ← j.variant?
  let value ← carried
  match name with
  | "ArgumentCount" =>
    match value.members? ["expected", "with_input"] with
    | some [expected, withInput] => do return argumentCount (← expected.nat?) (← withInput.bool?)
    | _ => none
  | "InvalidArgument" =>
    match value.members? ["position", "expected"] with
    | some [position, expected] => do
      return invalidArgument (← position.nat?) (← expected.string?)
    | _ => none
  | "Failed" => value.string?.map failed
  | _ => none

end FunctionError

namespace ResolutionError

def toJson : ResolutionError → Json
  | unknownFunction name => .tagged "UnknownFunction" (.string name)
  | unresolvedVariable name => .tagged "UnresolvedVariable" (.string name)
  | functionFailed name cause =>
    .tagged "FunctionFailed" (.object [("name", .string name), ("source", cause.toJson)])
  | variableResolverFailed name reason =>
    .tagged "VariableResolverFailed"
      (.object [("name", .string name), ("message", .string reason)])

def ofJson? (j : Json) : Option ResolutionError := do
  let (name, carried) ← j.variant?
  let value ← carried
  match name with
  | "UnknownFunction" => value.string?.map unknownFunction
  | "UnresolvedVariable" => value.string?.map unresolvedVariable
  | "FunctionFailed" =>
    match value.members? ["name", "source"] with
    | some [called, cause] => do
      return functionFailed (← called.string?) (← FunctionError.ofJson? cause)
    | _ => none
  | "VariableResolverFailed" =>
    match value.members? ["name", "message"] with
    | some [asked, reason] => do
      return variableResolverFailed (← asked.string?) (← reason.string?)
    | _ => none
  | _ => none

end ResolutionError

namespace TemplateError

def toJson (e : TemplateError) : Json :=
  .tagged e.family <|
    match e with
    | lexical cause => cause.toJson
    | syntactic cause => cause.toJson
    | resolution cause => cause.toJson

def ofJson? (j : Json) : Option TemplateError := do
  let (name, carried) ← j.variant?
  let value ← carried
  match name with
  | "LexicalError" => (LexicalError.ofJson? value).map lexical
  | "SyntaxError" => (SyntaxError.ofJson? value).map syntactic
  | "ResolutionError" => (ResolutionError.ofJson? value).map resolution
  | _ => none

end TemplateError

end BlockTemplate
