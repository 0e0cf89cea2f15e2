import Entitlement.Sql.Table

/-!
# `Entitlement.Sql.Catalog` — the table of all tables

A database lists its tables, and the orders that it keeps for their constraints, in a table of its own, the
catalog. Every entry stands with the page of the store on which it begins.

## Contents
- **`Pages`**: the pages of a store; `take` and `release`.
- **`Catalog`**: the table and the pages; `addTable`, `removeTable`.
- **Names.** `catalogNames`, `temporaryCatalogNames`, and `isReserved`, the names no other table can have.
-/

namespace Entitlement.Sql

/-! ## Pages -/

/-- The pages of a store. The catalog has the first. -/
structure Pages where
  count : Nat := 1
  /-- The pages that are free again. The first of them keeps the list of the others. -/
  free : List Nat := []

namespace Pages

/-- Takes a page: of the free pages the least, but the one that keeps their list last of all. -/
def take (p : Pages) : Nat × Pages :=
  match p.free with
  | [] => (p.count + 1, { p with count := p.count + 1 })
  | first :: rest =>
    let page := rest.min?.getD first
    (page, { p with free := (first :: rest).erase page })

/-- Gives a page back. -/
def release (p : Pages) (page : Nat) : Pages := { p with free := p.free ++ [page] }

end Pages

/-! ## Names -/

/-- The name of the catalog. -/
def catalogName : String := "sqlite_master"

/-- The name of the catalog of tables that go with the connection, of which there are none. -/
def temporaryCatalogName : String := "sqlite_temp_master"

/-- The name of the table of the numbers that tables have given to their rows. -/
def sequenceName : String := "sqlite_sequence"

/-- The names of the catalog. -/
def catalogNames : List String := [catalogName, "sqlite_schema"]

/-- The names of the catalog of tables that go with the connection. -/
def temporaryCatalogNames : List String := [temporaryCatalogName, "sqlite_temp_schema"]

/-- Whether a name is reserved for the database's own tables. -/
def isReserved (name : String) : Bool := (fold "sqlite_").isPrefixOf (fold name)

/-! ## The catalog -/

/-- A catalog without entries. -/
def emptyCatalog (name : String) : Table where
  name
  columns := [
    { name := "type", type := .text }, { name := "name", type := .text }, { name := "tbl_name", type := .text },
    { name := "rootpage", type := .integer }, { name := "sql", type := .text }]

/-- The catalog of a database and the pages of its store. -/
structure Catalog where
  table : Table := emptyCatalog catalogName
  pages : Pages := {}

namespace Catalog

/-- Adds an entry that begins on a page of its own. -/
def add (c : Catalog) (kind name table : String) (text : Datum) : Catalog :=
  let (page, pages) := c.pages.take
  ⟨c.table.write c.table.freshNumber [.text kind, .text name, .text table, .integer page, text], pages⟩

/-- Adds the entries of a table and of the orders of its constraints. -/
def addTable (c : Catalog) (t : Table) (text : String) : Catalog :=
  t.constraints.zipIdx.foldl
    (fun c (_, i) => c.add "index" ("sqlite_autoindex_" ++ t.name ++ "_" ++ toString (i + 1)) t.name .null)
    (c.add "table" t.name t.name (.text text))

/-- Removes the entries of a table. Their pages are free again, the greatest first. -/
def removeTable (c : Catalog) (name : String) : Catalog :=
  -- The third column names the table that an entry belongs to, and the fourth its page.
  let isOf (cells : Cells) : Bool := Table.cell cells 2 = .text name
  let pages := (c.table.rows.values.filter isOf).filterMap fun cells =>
    match Table.cell cells 3 with
    | .integer page => some page.toNat
    | _ => none
  ⟨c.table.removeWhere isOf, (pages.mergeSort fun a b => b ≤ a).foldl Pages.release c.pages⟩

end Catalog

end Entitlement.Sql
