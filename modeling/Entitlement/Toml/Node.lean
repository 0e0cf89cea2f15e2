import Entitlement.Numeral.Binary64

/-!
# `Entitlement.Toml.Node` — the tree of a TOML document

## Contents
- **`Origin`**: how a table came about, which decides what may still be added to it.
- **`Node`**: values, tables and arrays of tables.
- **`Entries`**: the content of a table, in the order in which its keys came.
- **`within`**: a change to the table at the end of a path, with the tables on the way created.
-/

namespace Entitlement.Toml

/-- How a table came about. -/
inductive Origin where
  /-- By a header of its own. -/
  | header
  /-- By a header that names a table inside it. -/
  | implied
  /-- By a dotted key. -/
  | dotted
  /-- As a value between braces. -/
  | inline
  deriving DecidableEq

/-- A value, a table or an array of tables. -/
inductive Node where
  | string (s : String)
  | integer (i : Int)
  | float (x : Numeral.Binary64)
  | boolean (b : Bool)
  /-- A date, a time or both; the document's readers never look inside. -/
  | moment
  | array (items : List Node)
  | table (origin : Origin) (entries : List (String × Node))
  | tables (elements : List (List (String × Node)))

/-- The content of a table, in the order in which its keys came. -/
abbrev Entries := List (String × Node)

namespace Entries

/-- The node under a key. -/
def get? (es : Entries) (key : String) : Option Node := List.lookup key es

/-- The entries with the node under a key replaced, in its place. -/
def set (es : Entries) (key : String) (n : Node) : Entries :=
  es.map fun e => if e.1 = key then (key, n) else e

/-- The entries without a key. -/
def remove (es : Entries) (key : String) : Entries := es.filter fun e => e.1 ≠ key

/-- Changes the table at the end of a path. Tables that are missing on the way are created with the origin
    `made`, and of an array of tables the last one is taken. A value on the way is an error; so is, on the way
    of a dotted key, a table that has a header of its own. -/
def within (made : Origin) (change : Origin → Entries → Option Entries) :
    List String → Origin → Entries → Option Entries
  | [], origin, es => change origin es
  | key :: path, _, es =>
    match es.get? key with
    | none => do
      let sub ← within made change path made []
      return es ++ [(key, .table made sub)]
    | some (.table origin sub) =>
      if origin = .inline ∨ (made = .dotted ∧ origin = .header) then none
      else do
        let sub ← within made change path origin sub
        return es.set key (.table origin sub)
    | some (.tables elements) =>
      match elements.getLast? with
      | none => none
      | some last => do
        let last ← within made change path .header last
        return es.set key (.tables (elements.dropLast ++ [last]))
    | some _ => none

/-- Adds a key that is not there yet. -/
def add (key : String) (n : Node) (es : Entries) : Option Entries :=
  match es.get? key with
  | none => some (es ++ [(key, n)])
  | some _ => none

/-- Adds the value of a key that may be dotted. The table that a dotted key adds to must itself have come
    about by dotted keys. -/
def addDotted (path : List String) (key : String) (n : Node) (origin : Origin) (es : Entries) :
    Option Entries :=
  within .dotted
    (fun origin es => if path ≠ [] ∧ origin ≠ .dotted then none else add key n es) path origin es

/-- Opens the table of a header. One that was implied so far keeps its content and moves to the end; any other
    is an error. -/
def openTable (path : List String) (key : String) (es : Entries) : Option Entries :=
  within .implied
    (fun _ es =>
      match es.get? key with
      | none => some (es ++ [(key, .table .header [])])
      | some (.table .implied sub) => some (es.remove key ++ [(key, .table .header sub)])
      | some _ => none)
    path .header es

/-- Opens a new element of an array of tables. -/
def openElement (path : List String) (key : String) (es : Entries) : Option Entries :=
  within .implied
    (fun _ es =>
      match es.get? key with
      | none => some (es ++ [(key, .tables [[]])])
      | some (.tables elements) => some (es.set key (.tables (elements ++ [[]])))
      | some _ => none)
    path .header es

end Entries

end Entitlement.Toml
