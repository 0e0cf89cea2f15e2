import Entitlement.Proofs.Sql.Insertion
import Entitlement.Proofs.Store.DirectoryContent
import Entitlement.Sql.Schema

/-!
# `Entitlement.Proofs.Store.DataSet` — data that fill both kinds of stores

A data set is a list of rules, groups, memberships and users in any order that do not get in each other's way
(`DataSet`). It fills a directory (`DataSet.directory`) and a database with the standard tables
(`DataSet.database`). The directory then holds the entries under their keys (`DataSet.held_directory`), and filling
the database succeeds and leaves every table with one row for each of its entries, in order
(`DataSet.exists_database`).
-/

namespace Entitlement

open Attribute (Row)
open Sql (Database Table Datum Cells)

/-- What stores are filled with. -/
inductive Entry where
  | rule (r : Rule) (active : Bool)
  | group (g : Group) (active : Bool)
  | membership (u : UserId) (g : GroupId)
  | user (u : UserId) (name : String) (score : Int)
  deriving DecidableEq

/-- The kinds of entries. -/
inductive Entry.Kind where
  | rule
  | group
  | membership
  | user
  deriving DecidableEq

/-- The attributes of a user: all columns of the users' table, of which the last two are not given. -/
def attributeRow (u : UserId) (name : String) (score : Int) : Row :=
  .ofList [("uid", .integer u.value), ("name", .string name), ("score", .integer score), ("balance", .null),
    ("title", .null)]

namespace Entry

/-- The kind of an entry. -/
def kind : Entry → Kind
  | .rule _ _ => .rule
  | .group _ _ => .group
  | .membership _ _ => .membership
  | .user _ _ _ => .user

/-- Two entries can stand in one data set: rules differ in key and name, groups and users in their keys, and
    memberships in the user or the group. -/
def Compatible : Entry → Entry → Prop
  | .rule r _, .rule r' _ => r.id ≠ r'.id ∧ r.name ≠ r'.name
  | .group g _, .group g' _ => g.id ≠ g'.id
  | .membership u g, .membership u' g' => (u, g) ≠ (u', g')
  | .user u _ _, .user u' _ _ => u ≠ u'
  | _, _ => True

instance : DecidableRel Compatible
  | .rule r _, .rule r' _ => inferInstanceAs (Decidable (r.id ≠ r'.id ∧ r.name ≠ r'.name))
  | .group g _, .group g' _ => inferInstanceAs (Decidable (g.id ≠ g'.id))
  | .membership u g, .membership u' g' => inferInstanceAs (Decidable ((u, g) ≠ (u', g')))
  | .user u _ _, .user u' _ _ => inferInstanceAs (Decidable (u ≠ u'))
  | .rule _ _, .group _ _ | .rule _ _, .membership _ _ | .rule _ _, .user _ _ _
  | .group _ _, .rule _ _ | .group _ _, .membership _ _ | .group _ _, .user _ _ _
  | .membership _ _, .rule _ _ | .membership _ _, .group _ _ | .membership _ _, .user _ _ _
  | .user _ _ _, .rule _ _ | .user _ _ _, .group _ _ | .user _ _ _, .membership _ _ => .isTrue trivial

/-- Adds an entry to a store in memory. -/
def addToDirectory (d : Directory) : Entry → Directory
  | .rule r active => d.addRule r active
  | .group g active => d.addGroup g active
  | .membership u g => d.addMembership u g
  | .user u name score => d.addRow u (attributeRow u name score)

/-- Adds an entry to a database with the default names of the tables. -/
def addToDatabase (db : Database) : Entry → Except Sql.Error Database
  | .rule r active => Sql.addRule db Sql.defaultTables r active
  | .group g active => Sql.addGroup db Sql.defaultTables g active
  | .membership u g => Sql.addMembership db Sql.defaultTables u g
  | .user u name score => Sql.addUser db Sql.defaultTables u name score

end Entry

/-- Entries that can stand together. -/
structure DataSet where
  entries : List Entry
  compatible : entries.Pairwise Entry.Compatible

namespace DataSet

/-- The store in memory that a data set fills. -/
def directory (ds : DataSet) : Directory := ds.entries.foldl Entry.addToDirectory {}

/-- The database that a data set fills, beginning with the standard tables. -/
def database (ds : DataSet) : Except Sql.Error Database := ds.entries.foldlM Entry.addToDatabase .standard

end DataSet

/-! ## Rows -/

namespace Entry

/-- The standard table for a kind of entries, without rows. -/
def Kind.schema : Kind → Table
  | .rule => Sql.ruleTable Sql.defaultTables.rule
  | .group => Sql.groupTable Sql.defaultTables.group
  | .membership => Sql.membershipTable Sql.defaultTables.groupAccess
  | .user => Sql.userTable Sql.defaultTables.user

/-- The table for a kind of entries with some rows. -/
def Kind.table (k : Kind) (rows : Keyed Int Cells) : Table := { k.schema with rows }

/-- The row of an entry. -/
def cells : Entry → Cells
  | .rule r active => [.integer r.id.value, .text r.name, .text "", Sql.status active, .text r.condition]
  | .group g active => [.integer g.id.value, .text g.title, Sql.status active, .text g.rules]
  | .membership u g => [.integer u.value, .integer g.value]
  | .user u name score => [.integer u.value, .text name, .integer score, .null, .null]

/-- The columns that are given when an entry is added. -/
def given : Entry → List (String × Datum)
  | .rule r active =>
    [("id", .integer r.id.value), ("name", .text r.name), ("status", Sql.status active),
      ("condition", .text r.condition)]
  | .group g active =>
    [("id", .integer g.id.value), ("title", .text g.title), ("status", Sql.status active),
      ("rules", .text g.rules)]
  | .membership u g => [("uid", .integer u.value), ("group_id", .integer g.value)]
  | .user u name score => [("uid", .integer u.value), ("name", .text name), ("score", .integer score)]

theorem addToDatabase_eq (db : Database) (e : Entry) :
    e.addToDatabase db = Sql.statement (db.insertNamed e.kind.schema.name e.given) := by
  cases e <;> rfl

/-- Entries of one kind that can stand together agree neither in the key column nor in the columns of a constraint
    of their table. -/
theorem Compatible.apart {e e' : Entry} (h : e'.Compatible e) (hkind : e'.kind = e.kind) :
    (∀ i, e.kind.schema.keyColumn? = some i → Table.cell e'.cells i ≠ Table.cell e.cells i) ∧
    ∀ c ∈ e.kind.schema.constraints,
      (c.positions.all fun i => (Table.cell e.cells i).same (Table.cell e'.cells i)) = false := by
  cases e with
  | rule r active =>
    cases e' with
    | rule r' active' =>
      refine ⟨fun i hi heq => ?_, fun c hc => ?_⟩
      · obtain rfl : 0 = i := Option.some.inj hi
        exact h.1 (congrArg RuleId.mk (Datum.integer.inj heq))
      · obtain rfl : c = ⟨[1], false⟩ := List.mem_singleton.mp hc
        show ((Datum.text r.name).same (.text r'.name) && true) = false
        rw [Bool.and_true, Datum.same_text]
        exact decide_eq_false h.2.symm
    | group | membership | user => cases hkind
  | group g active =>
    cases e' with
    | group g' active' =>
      refine ⟨fun i hi heq => ?_, fun c hc => absurd hc List.not_mem_nil⟩
      obtain rfl : 0 = i := Option.some.inj hi
      exact h (congrArg GroupId.mk (Datum.integer.inj heq))
    | rule | membership | user => cases hkind
  | membership u g =>
    cases e' with
    | membership u' g' =>
      refine ⟨fun i hi => (nomatch hi), fun c hc => ?_⟩
      obtain rfl : c = ⟨[0, 1], false⟩ := List.mem_singleton.mp hc
      show ((Datum.integer u.value).same (.integer u'.value) &&
        ((Datum.integer g.value).same (.integer g'.value) && true)) = false
      rw [Bool.and_true, Datum.same_integer, Datum.same_integer, ← Bool.decide_and]
      refine decide_eq_false fun heq => h ?_
      rw [Prod.mk.injEq]
      exact ⟨congrArg UserId.mk heq.1.symm, congrArg GroupId.mk heq.2.symm⟩
    | rule | group | user => cases hkind
  | user u name score =>
    cases e' with
    | user u' name' score' =>
      refine ⟨fun i hi heq => ?_, fun c hc => absurd hc List.not_mem_nil⟩
      obtain rfl : 0 = i := Option.some.inj hi
      exact h (congrArg UserId.mk (Datum.integer.inj heq))
    | rule | group | membership => cases hkind

end Entry

/-! ## Tables -/

/-- The rows of a table are those of the entries of a kind, in order, and a row of a table with a key column has
    its number there. -/
structure Rows (k : Entry.Kind) (es : List Entry) (rows : Keyed Int Cells) : Prop where
  values : rows.values = (es.filter (·.kind = k)).map Entry.cells
  numbers : ∀ r ∈ rows.entries, ∀ i, k.schema.keyColumn? = some i → Table.cell r.2 i = .integer r.1

namespace Rows

variable {k : Entry.Kind} {es : List Entry} {rows : Keyed Int Cells} {e : Entry}

theorem mem_values (h : Rows k es rows) {cells : Cells} :
    cells ∈ rows.values ↔ ∃ e ∈ es, e.kind = k ∧ e.cells = cells := by
  rw [h.values, List.mem_map]
  simp only [List.mem_filter, decide_eq_true_iff, and_assoc]

theorem append_other (h : Rows k es rows) (he : e.kind ≠ k) : Rows k (es ++ [e]) rows where
  values := by
    rw [List.filter_append, List.filter_cons_of_neg (by simpa using he), List.filter_nil, List.append_nil, h.values]
  numbers := h.numbers

theorem append_own (h : Rows k es rows) (he : e.kind = k) {number : Int} (hnew : rows.get? number = none)
    (hnumber : ∀ i, k.schema.keyColumn? = some i → Table.cell e.cells i = .integer number) :
    Rows k (es ++ [e]) (rows.insert number e.cells) where
  values := by
    rw [List.filter_append, List.filter_cons_of_pos (by simpa using he), List.filter_nil, List.map_append, ← h.values,
      Keyed.values, Keyed.entries_insert_of_absent hnew, List.map_append]
    rfl
  numbers := by
    rw [Keyed.entries_insert_of_absent hnew]
    intro r hr
    rcases List.mem_append.mp hr with hr | hr
    · exact h.numbers r hr
    · obtain rfl := List.mem_singleton.mp hr
      exact hnumber

/-- No row of the table agrees with that of an entry that can be added. -/
theorem agrees_eq_false (h : Rows e.kind es rows) (hcompat : ∀ e' ∈ es, e'.Compatible e) :
    ∀ c ∈ e.kind.schema.constraints, (e.kind.table rows).agrees c.positions e.cells = false := by
  intro c hc
  rw [Table.agrees, List.any_eq_false]
  intro other hother
  obtain ⟨e', he', hkind, rfl⟩ := h.mem_values.mp hother
  rw [((hcompat e' he').apart hkind).2 c hc]
  decide

/-- The number in the key column of an entry that can be added is no row's. -/
theorem get?_eq_none (h : Rows e.kind es rows) (hcompat : ∀ e' ∈ es, e'.Compatible e) {i : Nat} {number : Int}
    (hi : e.kind.schema.keyColumn? = some i) (hnumber : Table.cell e.cells i = .integer number) :
    rows.get? number = none := by
  cases hget : rows.get? number with
  | none => rfl
  | some other =>
    obtain ⟨front, back, hentries, -, -⟩ := Keyed.exists_split hget
    have hmem : (number, other) ∈ rows.entries := by
      rw [hentries]
      exact List.mem_append_right _ List.mem_cons_self
    obtain ⟨e', he', hkind, hcells⟩ := h.mem_values.mp (Keyed.mem_values_of_get? hget)
    have hother : Table.cell other i = .integer number := h.numbers (number, other) hmem i hi
    exact absurd (hcells ▸ hother.trans hnumber.symm) (((hcompat e' he').apart hkind).1 i hi)

/-- **Adding a row.** The row of an entry that can be added is accepted, under a number that no row has; in a table
    with a key column it is the number in that column. -/
theorem insert_entry (h : Rows e.kind es rows) (hcompat : ∀ e' ∈ es, e'.Compatible e) (last : Option Int)
    (hlast : e.kind = .membership → last = none) :
    ∃ number, (e.kind.table rows).insert last ((e.kind.table rows).arrange e.given) =
        .ok (e.kind.table (rows.insert number e.cells), number) ∧
      rows.get? number = none ∧
      ∀ i, e.kind.schema.keyColumn? = some i → Table.cell e.cells i = .integer number := by
  have hapart := h.agrees_eq_false hcompat
  cases e with
  | rule r active =>
    have hnew := h.get?_eq_none hcompat (i := 0) rfl rfl
    refine ⟨r.id.value, Table.insert_ok rfl rfl rfl rfl hnew hapart, hnew, fun i hi => ?_⟩
    obtain rfl : 0 = i := Option.some.inj hi
    rfl
  | group g active =>
    have hnew := h.get?_eq_none hcompat (i := 0) rfl rfl
    refine ⟨g.id.value, Table.insert_ok rfl rfl rfl rfl hnew hapart, hnew, fun i hi => ?_⟩
    obtain rfl : 0 = i := Option.some.inj hi
    rfl
  | membership u g =>
    obtain rfl := hlast rfl
    obtain ⟨number, hnumber, hnew⟩ := (Entry.Kind.membership.table rows).nextNumber_absent
    exact ⟨number, Table.insert_ok rfl hnumber rfl rfl hnew hapart, hnew, fun i hi => nomatch hi⟩
  | user u name score =>
    have hnew := h.get?_eq_none hcompat (i := 0) rfl rfl
    refine ⟨u.value, Table.insert_ok rfl rfl rfl rfl hnew hapart, hnew, fun i hi => ?_⟩
    obtain rfl : 0 = i := Option.some.inj hi
    rfl

end Rows

/-- A database in which some entries are: its standard tables have their rows. -/
structure Loaded (db : Database) (es : List Entry) : Prop where
  tables : ∀ k : Entry.Kind, ∃ rows, db.tables.get? (Sql.fold k.schema.name) = some (k.table rows) ∧ Rows k es rows
  numbers : db.KeepsNumbers

namespace Loaded

theorem standard : Loaded .standard [] where
  tables k := by
    refine ⟨∅, ?_, rfl, fun r hr => nomatch hr⟩
    cases k <;> rfl
  numbers := ⟨Sql.Database.sequenceTable, rfl, rfl⟩

/-- The standard tables and the table of the numbers have different names. -/
theorem fold_name_ne {k k' : Entry.Kind} (h : k ≠ k') : Sql.fold k.schema.name ≠ Sql.fold k'.schema.name := by
  revert h
  cases k <;> cases k' <;> decide

theorem fold_name_ne_sequence (k : Entry.Kind) : Sql.fold k.schema.name ≠ Sql.fold Sql.sequenceName := by
  cases k <;> decide

theorem ownTable?_name (db : Database) (k : Entry.Kind) : db.ownTable? k.schema.name = none := by
  have hcatalog : Sql.catalogNames.any (Sql.sameName k.schema.name) = false := by cases k <;> decide
  have htemporary : Sql.temporaryCatalogNames.any (Sql.sameName k.schema.name) = false := by cases k <;> decide
  rw [Sql.Database.ownTable?, hcatalog, htemporary]
  rfl

/-- **Adding an entry.** An entry that can stand with those that are in the database is added to them. -/
theorem add {db : Database} {es : List Entry} (h : Loaded db es) {e : Entry}
    (hcompat : ∀ e' ∈ es, e'.Compatible e) : ∃ db', e.addToDatabase db = .ok db' ∧ Loaded db' (es ++ [e]) := by
  obtain ⟨rows, htable, hrows⟩ := h.tables e.kind
  obtain ⟨number, hinsert, hnew, hnumber⟩ := hrows.insert_entry hcompat
    (db.lastNumber? (e.kind.table rows)) fun hk => by rw [hk]; rfl
  let t := e.kind.table (rows.insert number e.cells)
  have hadded : e.addToDatabase db = .ok ((db.recordNumber t number).put t) := by
    have hwritable := Sql.Database.writable_ok (ownTable?_name db e.kind) htable
    rw [Entry.addToDatabase_eq, Sql.Database.insertNamed_ok hwritable (by cases e <;> rfl) hinsert]
    rfl
  obtain ⟨hkeeps, hframe⟩ := h.numbers.recordNumber t number
  refine ⟨_, hadded, fun k => ?_, hkeeps.put (fold_name_ne_sequence e.kind)⟩
  by_cases hk : e.kind = k
  · subst hk
    refine ⟨rows.insert number e.cells, ?_, hrows.append_own rfl hnew hnumber⟩
    exact (Sql.Database.tables_put _ t _).trans (if_pos rfl)
  · -- the other tables stay as they are
    obtain ⟨rows', htable', hrows'⟩ := h.tables k
    refine ⟨rows', ?_, hrows'.append_other hk⟩
    have hput := (Sql.Database.tables_put (db.recordNumber t number) t (Sql.fold k.schema.name)).trans
      (if_neg (fold_name_ne hk))
    rw [hput, hframe _ (fold_name_ne_sequence k), htable']

/-- Entries that can stand together are added one after the other. -/
theorem addAll {db : Database} {es es' : List Entry} (h : Loaded db es)
    (hcompat : (es ++ es').Pairwise Entry.Compatible) :
    ∃ db', es'.foldlM Entry.addToDatabase db = .ok db' ∧ Loaded db' (es ++ es') := by
  induction es' generalizing db es with
  | nil => exact ⟨db, rfl, by rwa [List.append_nil]⟩
  | cons e rest ih =>
    have hnew : ∀ e' ∈ es, e'.Compatible e := fun e' he' =>
      (List.pairwise_append.mp hcompat).2.2 e' he' e List.mem_cons_self
    obtain ⟨db', hdb', hloaded⟩ := h.add hnew
    rw [List.append_cons] at hcompat ⊢
    obtain ⟨db'', hdb'', hloaded'⟩ := ih hloaded hcompat
    exact ⟨db'', by rw [List.foldlM_cons, hdb']; exact hdb'', hloaded'⟩

end Loaded

/-- **Filling a database** succeeds, and leaves the rows of all entries in it. -/
theorem DataSet.exists_database (ds : DataSet) : ∃ db, ds.database = .ok db ∧ Loaded db ds.entries :=
  Loaded.standard.addAll ds.compatible

/-! ## The directory -/

namespace DataSet

/-- Filling a directory is a matter of additions only. -/
theorem built_directory (ds : DataSet) : ds.directory.Built := by
  have hbuilt (es : List Entry) (d : Directory) (hd : d.Built) : (es.foldl Entry.addToDirectory d).Built := by
    induction es generalizing d with
    | nil => exact hd
    | cons e rest ih =>
      refine ih _ ?_
      cases e with
      | rule r active => exact hd.addRule r active
      | group g active => exact hd.addGroup g active
      | membership u g => exact hd.addMembership u g
      | user u name score => exact hd.addRow u _
  exact hbuilt ds.entries {} .empty

end DataSet

/-- The membership that an entry is. -/
def Entry.membership? : Entry → Option (UserId × GroupId)
  | .membership u g => some (u, g)
  | .rule _ _ | .group _ _ | .user _ _ _ => none

/-- A directory in which some entries are. -/
structure Held (d : Directory) (es : List Entry) : Prop where
  rules : ∀ k r active, d.rules.get? k = some ⟨r, active⟩ ↔ .rule r active ∈ es ∧ r.id = k
  groups : ∀ k g active, d.groups.get? k = some ⟨g, active⟩ ↔ .group g active ∈ es ∧ g.id = k
  memberships : d.memberships = es.filterMap Entry.membership?
  rows : ∀ u row, d.rows.get? u = some row ↔ ∃ name score, .user u name score ∈ es ∧ row = attributeRow u name score

namespace Held

variable {d : Directory} {es : List Entry}

theorem empty : Held {} [] where
  rules _ _ _ := ⟨fun h => (nomatch h), fun h => absurd h.1 List.not_mem_nil⟩
  groups _ _ _ := ⟨fun h => (nomatch h), fun h => absurd h.1 List.not_mem_nil⟩
  memberships := rfl
  rows _ _ := ⟨fun h => (nomatch h), fun ⟨_, _, h, _⟩ => absurd h List.not_mem_nil⟩

/-- What a map holds under the items' own keys, with one item more. -/
theorem get?_insert_stored {κ α : Type} [DecidableEq κ] {m : Keyed κ (Stored α)} {key : α → κ}
    {p : α → Bool → Prop} (hm : ∀ k x active, m.get? k = some ⟨x, active⟩ ↔ p x active ∧ key x = k) {x₀ : α}
    (hnew : ∀ x active, p x active → key x ≠ key x₀) (active₀ : Bool) (k : κ) (x : α) (active : Bool) :
    (m.insert (key x₀) ⟨x₀, active₀⟩).get? k = some ⟨x, active⟩ ↔
      (p x active ∨ x = x₀ ∧ active = active₀) ∧ key x = k := by
  have habsent : m.get? (key x₀) = none := by
    cases hget : m.get? (key x₀) with
    | none => rfl
    | some s =>
      obtain ⟨hp, hkey⟩ := (hm _ s.item s.active).mp hget
      exact absurd hkey (hnew _ _ hp)
  rw [Keyed.get?_insert_iff habsent, hm, Stored.mk.injEq]
  constructor
  · rintro (⟨hp, hkey⟩ | ⟨rfl, rfl, rfl⟩)
    · exact ⟨.inl hp, hkey⟩
    · exact ⟨.inr ⟨rfl, rfl⟩, rfl⟩
  · rintro ⟨hp | ⟨rfl, rfl⟩, hkey⟩
    · exact .inl ⟨hp, hkey⟩
    · exact .inr ⟨hkey.symm, rfl, rfl⟩

theorem memberships_append (h : Held d es) {e : Entry} (he : e.membership? = none) :
    d.memberships = (es ++ [e]).filterMap Entry.membership? := by
  rw [List.filterMap_append, ← h.memberships, List.filterMap_cons_none he, List.filterMap_nil, List.append_nil]

/-- **Adding an entry.** -/
theorem add (h : Held d es) {e : Entry} (hcompat : ∀ e' ∈ es, e'.Compatible e) :
    Held (e.addToDirectory d) (es ++ [e]) := by
  cases e with
  | rule r active =>
    constructor
    case rules =>
      intro k r' active'
      have hget := get?_insert_stored h.rules (fun r' active' hmem => (hcompat _ hmem).1) active k r' active'
      simpa [Entry.addToDirectory, Directory.addRule] using hget
    case memberships => exact h.memberships_append rfl
    case groups => simpa [Entry.addToDirectory, Directory.addRule] using h.groups
    case rows => simpa [Entry.addToDirectory, Directory.addRule] using h.rows
  | group g active =>
    constructor
    case groups =>
      intro k g' active'
      have hget := get?_insert_stored h.groups (fun g' active' hmem => hcompat _ hmem) active k g' active'
      simpa [Entry.addToDirectory, Directory.addGroup] using hget
    case memberships => exact h.memberships_append rfl
    case rules => simpa [Entry.addToDirectory, Directory.addGroup] using h.rules
    case rows => simpa [Entry.addToDirectory, Directory.addGroup] using h.rows
  | membership u g =>
    constructor
    case memberships =>
      show d.memberships ++ [(u, g)] = _
      rw [h.memberships, List.filterMap_append]
      rfl
    case rules => simpa [Entry.addToDirectory, Directory.addMembership] using h.rules
    case groups => simpa [Entry.addToDirectory, Directory.addMembership] using h.groups
    case rows => simpa [Entry.addToDirectory, Directory.addMembership] using h.rows
  | user u name score =>
    constructor
    case rows =>
      intro u' row
      have habsent : d.rows.get? u = none := by
        cases hget : d.rows.get? u with
        | none => rfl
        | some row =>
          obtain ⟨name', score', hmem, -⟩ := (h.rows u row).mp hget
          exact absurd rfl (hcompat _ hmem)
      show (d.rows.insert u (attributeRow u name score)).get? u' = some row ↔ _
      rw [Keyed.get?_insert_iff habsent, h.rows]
      constructor
      · rintro (⟨name', score', hmem, hrow⟩ | ⟨rfl, hrow⟩)
        · exact ⟨name', score', List.mem_append_left _ hmem, hrow⟩
        · exact ⟨name, score, List.mem_append_right _ List.mem_cons_self, hrow⟩
      · rintro ⟨name', score', hmem, hrow⟩
        rcases List.mem_append.mp hmem with hmem | hmem
        · exact .inl ⟨name', score', hmem, hrow⟩
        · cases List.mem_singleton.mp hmem
          exact .inr ⟨rfl, hrow⟩
    case memberships => exact h.memberships_append rfl
    case rules => simpa [Entry.addToDirectory, Directory.addRow] using h.rules
    case groups => simpa [Entry.addToDirectory, Directory.addRow] using h.groups

theorem addAll {es' : List Entry} (h : Held d es) (hcompat : (es ++ es').Pairwise Entry.Compatible) :
    Held (es'.foldl Entry.addToDirectory d) (es ++ es') := by
  induction es' generalizing d es with
  | nil => rwa [List.append_nil]
  | cons e rest ih =>
    have hnew : ∀ e' ∈ es, e'.Compatible e := fun e' he' =>
      (List.pairwise_append.mp hcompat).2.2 e' he' e List.mem_cons_self
    rw [List.append_cons] at hcompat ⊢
    exact ih (h.add hnew) hcompat

end Held

/-- **Filling a directory** leaves all entries in it. -/
theorem DataSet.held_directory (ds : DataSet) : Held ds.directory ds.entries := Held.empty.addAll ds.compatible

end Entitlement
