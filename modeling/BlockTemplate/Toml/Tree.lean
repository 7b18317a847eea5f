import BlockTemplate.Json
/-!
# Tables of a configuration file

A file builds a tree of tables. A table comes about in one of three ways, and that decides what may
still be added to it: by its own header, by a header of a table inside it, or by a key with points.
-/

namespace BlockTemplate.Toml

/-- How a table came about. -/
inductive Origin where
  /-- By its own header. -/
  | header
  /-- By the header of a table inside it. -/
  | implied
  /-- By a key with points. -/
  | dotted
  deriving DecidableEq, Repr

inductive Node where
  | value (value : Json)
  | table (origin : Origin) (fields : List (String × Node))
  /-- Tables of one name, the last one apart. -/
  | tables (earlier : List Json) (last : List (String × Node))

/-- The fields of a table. -/
abbrev Tree := List (String × Node)

namespace Tree

/-- The node of a key. -/
def get? (t : Tree) (key : String) : Option Node := (t.find? fun f => f.1 = key).map (·.2)

/-- Sets the node of a key. -/
def set (t : Tree) (key : String) (node : Node) : Tree :=
  if (t.get? key).isSome then t.map fun f => if f.1 = key then (key, node) else f
  else t ++ [(key, node)]

end Tree

mutual

def Node.toJson : Node → Json
  | .value j => j
  | .table _ fields => .ofFields (treeFields fields)
  | .tables earlier last => .array (earlier ++ [.ofFields (treeFields last)])

def treeFields : List (String × Node) → List (String × Json)
  | [] => []
  | (key, node) :: rest => (key, node.toJson) :: treeFields rest

end

/-- A tree as data. -/
def Tree.toJson (t : Tree) : Json := .ofFields (treeFields t)

namespace Tree

/-- Changes the table that a path of headers leads to. Tables on the way come about if they are
missing. Of tables of one name it is the last one. -/
def within (f : Tree → Option Tree) : List String → Tree → Option Tree
  | [], t => f t
  | key :: path, t =>
    match t.get? key with
    | none => (within f path []).map fun s => t.set key (.table .implied s)
    | some (.value _) => none
    | some (.table origin s) => (within f path s).map fun s => t.set key (.table origin s)
    | some (.tables earlier last) =>
      (within f path last).map fun s => t.set key (.tables earlier s)

/-- Opens a table of a name by its header. -/
def openTable (key : String) (t : Tree) : Option Tree :=
  match t.get? key with
  | none => some (t.set key (.table .header []))
  | some (.table .implied s) => some (t.set key (.table .header s))
  | some _ => none

/-- Opens one more table of a name. -/
def openNext (key : String) (t : Tree) : Option Tree :=
  match t.get? key with
  | none => some (t.set key (.tables [] []))
  | some (.tables earlier last) =>
    some (t.set key (.tables (earlier ++ [toJson last]) []))
  | some _ => none

/-- Sets the value of a key inside a table that came about by points in keys. -/
def insertDotted (value : Json) : List String → Origin → Tree → Option Tree
  | [], _, _ => none
  | [key], origin, t =>
    if origin = .dotted ∧ (t.get? key).isNone then some (t.set key (.value value)) else none
  | key :: path, _, t =>
    match t.get? key with
    | none => (insertDotted value path .dotted []).map fun s => t.set key (.table .dotted s)
    | some (.value _) => none
    | some (.table .header _) => none
    | some (.table origin s) =>
      (insertDotted value path origin s).map fun s => t.set key (.table origin s)
    | some (.tables earlier last) =>
      (insertDotted value path .header last).map fun s => t.set key (.tables earlier s)

/-- Sets the value of a key, which must not have one. -/
def insert (path : List String) (value : Json) (t : Tree) : Option Tree :=
  match path with
  | [key] => if (t.get? key).isNone then some (t.set key (.value value)) else none
  | _ => insertDotted value path .header t

end Tree

end BlockTemplate.Toml
