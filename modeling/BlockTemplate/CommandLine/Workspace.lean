/-!
# Workspaces

What the command line can read: files by their paths, and one standard input. Reading the input
takes it all, so that reading it again gives nothing more.

## Implementation notes

`Host` is what a command needs of the world, in any monad. `Workspace.host` is a host that holds its
files in a list, so that runs over it can be compared.
-/

namespace BlockTemplate.CommandLine

/-- What reads files and the standard input: each gives a text or the reason why there is none. -/
structure Host (m : Type → Type) where
  readFile : String → m (Except String String)
  readInput : m (Except String String)

/-- The path that stands for the standard input. -/
def inputPath : String := "-"

/-- What the standard input is called where it cannot be read. -/
def inputName : String := "stdin"

structure Workspace where
  /-- Texts of files by their names. -/
  files : List (String × String)
  input : String
  deriving DecidableEq, Repr

namespace Workspace

/-- The parts of a path between slashes. -/
def segments : List Char → List (List Char)
  | [] => [[]]
  | c :: cs =>
    if c = '/' then [] :: segments cs
    else
      match segments cs with
      | [] => [[c]]
      | part :: rest => (c :: part) :: rest

/-- A path without the parts that name the directory they stand in. The last part of a file's path
is never one of these. -/
def plainPath (path : List Char) : List (List Char) :=
  let parts := segments path
  match parts with
  | [] :: _ :: _ => parts
  | _ => (parts.dropLast.filter fun part => part ≠ [] ∧ part ≠ ['.']) ++ [parts.getLastD []]

/-- The text of a file. -/
def file? (w : Workspace) (path : String) : Option String :=
  (w.files.find? fun f => plainPath f.1.toList = plainPath path.toList).map (·.2)

def host : Host (StateM Workspace) where
  readFile path := do
    return match (← get).file? path with
      | some text => .ok text
      | none => .error "No such file or directory"
  readInput := do
    let w ← get
    set { w with input := "" }
    return .ok w.input

end Workspace

end BlockTemplate.CommandLine
