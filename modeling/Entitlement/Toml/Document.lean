import Entitlement.Toml.Node
import Entitlement.Toml.Number

/-!
# `Entitlement.Toml.Document` — reading a TOML document

A document is a sequence of lines: comments, keys with values, and headers of tables and of arrays of tables.
Its reading is strict: a key that comes twice, a table that is opened twice, a value that does not end its line
and every other departure from the grammar refuse the whole document.

## Contents
- **Line structure**: `lineEnd`, `skipLines`.
- **`value`**: values of all kinds, nested up to a limit.
- **`Statement`, `statement`, `parse?`**: one line, and the document.
-/

namespace Entitlement.Toml

/-! ## Line structure -/

/-- The text behind a comment, up to the end of its line; a text without a comment stays as it is. -/
def skipComment : List Char → Option (List Char)
  | '#' :: rest =>
    match rest.dropWhile isPlain with
    | [] => some []
    | s => (newline? s).map fun _ => s
  | s => some s

/-- The text behind the end of a line, before which only space and a comment may stand. -/
def lineEnd (s : List Char) : Option (List Char) := do
  match ← skipComment (skipSpace s) with
  | [] => some []
  | s => newline? s

/-- Passes over space, comments and ends of line. -/
def skipLines : Nat → List Char → Option (List Char)
  | 0, s => some s
  | fuel + 1, s =>
    match skipSpace s with
    | '#' :: rest => (skipComment ('#' :: rest)).bind (skipLines fuel)
    | s =>
      match newline? s with
      | some rest => skipLines fuel rest
      | none => some s

/-- Passes over all space, comments and ends of line in front of a text. -/
def skipBlank (s : List Char) : Option (List Char) := skipLines (s.length + 1) s

/-! ## Values -/

/-- The elements of an array behind its opening bracket; `fuel` bounds their number. -/
def elements (item : Reader Node) : Nat → Reader (List Node)
  | 0, _ => none
  | fuel + 1, s => do
    match ← skipBlank s with
    | ']' :: rest => return ([], rest)
    | s =>
      let (n, s) ← item s
      match ← skipBlank s with
      | ',' :: rest =>
        let (ns, rest) ← elements item fuel rest
        return (n :: ns, rest)
      | ']' :: rest => return ([n], rest)
      | _ => none

/-- The pairs of an inline table behind its opening brace, which is not empty. -/
def pairs (item : Reader Node) : Nat → Entries → Reader Entries
  | 0, _, _ => none
  | fuel + 1, es, s => do
    let (path, s) ← dottedKey s
    let (_, s) ← character '=' s
    let (n, s) ← item (skipSpace s)
    let es ← es.addDotted path.dropLast (path.getLastD "") n .inline
    match skipSpace s with
    | ',' :: rest => pairs item fuel es rest
    | '\x7d' :: rest => return (es, rest)
    | _ => none

/-- A value; arrays and inline tables are nested at most `depth` deep. -/
def value : Nat → Reader Node
  | depth, s =>
    match s with
    | [] => none
    | c :: rest =>
      if c = '"' ∨ c = '\'' then (quoted s).map fun (t, r) => (.string t, r)
      else if c = '[' then
        match depth with
        | 0 => none
        | depth + 1 => (elements (value depth) (s.length + 1) rest).map fun (ns, r) => (.array ns, r)
      else if c = '\x7b' then
        match depth with
        | 0 => none
        | depth + 1 =>
          match skipSpace rest with
          | '\x7d' :: r => some (.table .inline [], r)
          | _ =>
            (pairs (value depth) (s.length + 1) [] rest).map fun (es, r) => (.table .inline es, r)
      else
        match s with
        | 't' :: 'r' :: 'u' :: 'e' :: r => some (.boolean true, r)
        | 'f' :: 'a' :: 'l' :: 's' :: 'e' :: r => some (.boolean false, r)
        | _ =>
          ((moment s).map fun (_, r) => (Node.moment, r)).or
            (((float s).map fun (x, r) => (Node.float x, r)).or
              ((integer s).map fun (i, r) => (Node.integer i, r)))

/-! ## Documents -/

/-- A line of a document that is not blank. -/
inductive Statement where
  | pair (path : List String) (key : String) (n : Node)
  | openTable (path : List String) (key : String)
  | openElement (path : List String) (key : String)

/-- The statement of a header, from the parts of its key. -/
def Statement.ofHeader (element : Bool) (path : List String) : Statement :=
  if element then .openElement path.dropLast (path.getLastD "")
  else .openTable path.dropLast (path.getLastD "")

/-- A statement, up to the end of its line. -/
def statement : Reader Statement
  | '[' :: '[' :: rest => do
    let (path, s) ← dottedKey rest
    let (_, s) ← character ']' s
    let (_, s) ← character ']' s
    return (.ofHeader true path, ← lineEnd s)
  | '[' :: rest => do
    let (path, s) ← dottedKey rest
    let (_, s) ← character ']' s
    return (.ofHeader false path, ← lineEnd s)
  | s => do
    let (path, s) ← dottedKey s
    let (_, s) ← character '=' s
    let (n, s) ← value depthLimit (skipSpace s)
    return (.pair path.dropLast (path.getLastD "") n, ← lineEnd s)

/-- A document that is being read: its tables, and the path of the table that the next pair belongs to. -/
structure Progress where
  root : Entries
  current : List String

/-- Adds a statement to a document. -/
def Progress.add (p : Progress) : Statement → Option Progress
  | .pair path key n => do
    let root ← Entries.within .implied (fun origin es => es.addDotted path key n origin) p.current .header p.root
    return ⟨root, p.current⟩
  | .openTable path key => do return ⟨← p.root.openTable path key, path ++ [key]⟩
  | .openElement path key => do return ⟨← p.root.openElement path key, path ++ [key]⟩

/-- Reads statements to the end of a text; `fuel` bounds their number. -/
def statements : Nat → Progress → List Char → Option Progress
  | 0, _, _ => none
  | fuel + 1, p, s => do
    match ← skipBlank s with
    | [] => return p
    | s =>
      let (st, rest) ← statement s
      statements fuel (← p.add st) rest

/-- The entries of a document; a byte-order mark in front does not count. -/
def parse? (s : List Char) : Option Entries :=
  let s := if s.head? = some '\ufeff' then s.drop 1 else s
  (statements (s.length + 1) ⟨[], []⟩ s).map Progress.root

end Entitlement.Toml
