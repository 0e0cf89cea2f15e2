import Entitlement.Proofs.Sql.Answers
import Entitlement.Proofs.Sql.Queries
import Entitlement.Proofs.Store.DataSet
import Entitlement.Sql.Store

/-!
# `Entitlement.Proofs.Store.LoadedDatabase` — the answers of a database that was filled with entries

The queries of the relational store over a database in which some entries are (`Loaded`), said in terms of the
entries: the groups of a user are those of its memberships that are active, ascending (`Serves.groupsOf`), the rules
among a set of keys are the active ones, ascending (`Serves.rulesAmong`), and the row of a user has its attributes
(`Serves.userRow`). None of this changes when questions are put (`Serves.observe`).
-/

namespace Entitlement

open Attribute (Row)
open Sql (Database Table Datum Cells Record Connection Statement Store GroupColumns RuleColumns)

/-! ## Reading rows -/

/-- The integer in a cell. -/
def Sql.Datum.int : Datum → Int
  | .integer i => i
  | .null | .real _ | .text _ | .blob _ => 0

/-- The text in a cell. -/
def Sql.Datum.string : Datum → String
  | .text s => s
  | .null | .integer _ | .real _ | .blob _ => ""

namespace Entry

/-- The key of a row. -/
def keyOf (r : Record) : Int := (Table.cell r.2 0).int

/-- The group in a row of the groups' table. -/
def groupOf (r : Record) : Group :=
  ⟨⟨keyOf r⟩, (Table.cell r.2 1).string, (Table.cell r.2 3).string⟩

/-- The rule in a row of the rules' table. -/
def ruleOf (r : Record) : Rule :=
  ⟨⟨keyOf r⟩, (Table.cell r.2 1).string, (Table.cell r.2 4).string⟩

/-- The attributes in a row of the users' table. -/
def attributesOf (cells : Cells) : Row :=
  .ofList (["uid", "name", "score", "balance", "title"].zipWith (fun name d => (name, d.toAttribute)) cells)

theorem attributesOf_user (u : UserId) (name : String) (score : Int) :
    attributesOf (Entry.user u name score).cells = attributeRow u name score := rfl

theorem Compatible.cells_ne {e e' : Entry} (h : e.Compatible e') (hkind : e.kind = e'.kind) : e.cells ≠ e'.cells := by
  intro heq
  cases e' with
  | rule | group | user => exact (h.apart hkind).1 0 rfl (congrArg (Table.cell · 0) heq)
  | membership u g =>
    cases e with
    | membership u' g' =>
      have huser : u'.value = u.value := congrArg (fun cells => (Table.cell cells 0).int) heq
      have hgroup : g'.value = g.value := congrArg (fun cells => (Table.cell cells 1).int) heq
      exact h (Prod.ext (congrArg UserId.mk huser) (congrArg GroupId.mk hgroup))
    | rule | group | user => cases hkind

end Entry

namespace Rows

variable {k : Entry.Kind} {es : List Entry} {rows : Keyed Int Cells} {number : Int} {cells : Cells}

/-- Every row is that of an entry. -/
theorem exists_entry (h : Rows k es rows) (hr : (number, cells) ∈ rows.entries) :
    ∃ e ∈ es, e.kind = k ∧ e.cells = cells := h.mem_values.mp (List.mem_map_of_mem hr)

/-- Every entry has a row. -/
theorem exists_row (h : Rows k es rows) {e : Entry} (he : e ∈ es) (hk : e.kind = k) :
    ∃ number, (number, e.cells) ∈ rows.entries := by
  obtain ⟨r, hr, hcells⟩ := List.mem_map.mp (h.mem_values.mpr ⟨e, he, hk, rfl⟩)
  exact ⟨r.1, by rw [← hcells]; exact hr⟩

theorem exists_rule (h : Rows .rule es rows) (hr : (number, cells) ∈ rows.entries) :
    ∃ r active, .rule r active ∈ es ∧ (Entry.rule r active).cells = cells := by
  obtain ⟨e, he, hkind, hcells⟩ := h.exists_entry hr
  cases e with
  | rule r active => exact ⟨r, active, he, hcells⟩
  | group | membership | user => cases hkind

theorem exists_group (h : Rows .group es rows) (hr : (number, cells) ∈ rows.entries) :
    ∃ g active, .group g active ∈ es ∧ (Entry.group g active).cells = cells := by
  obtain ⟨e, he, hkind, hcells⟩ := h.exists_entry hr
  cases e with
  | group g active => exact ⟨g, active, he, hcells⟩
  | rule | membership | user => cases hkind

theorem exists_membership (h : Rows .membership es rows) (hr : (number, cells) ∈ rows.entries) :
    ∃ u g, .membership u g ∈ es ∧ (Entry.membership u g).cells = cells := by
  obtain ⟨e, he, hkind, hcells⟩ := h.exists_entry hr
  cases e with
  | membership u g => exact ⟨u, g, he, hcells⟩
  | rule | group | user => cases hkind

theorem exists_user (h : Rows .user es rows) (hr : (number, cells) ∈ rows.entries) :
    ∃ u name score, .user u name score ∈ es ∧ (Entry.user u name score).cells = cells := by
  obtain ⟨e, he, hkind, hcells⟩ := h.exists_entry hr
  cases e with
  | user u name score => exact ⟨u, name, score, he, hcells⟩
  | rule | group | membership => cases hkind

/-- Entries that can stand together have different rows. -/
theorem nodup_values (h : Rows k es rows) (hes : es.Pairwise Entry.Compatible) : rows.values.Nodup := by
  rw [h.values]
  apply List.pairwise_map.mpr
  apply (hes.filter _).imp_of_mem
  intro e e' he he' hcompat
  have hkind : e.kind = k := of_decide_eq_true (List.mem_filter.mp he).2
  have hkind' : e'.kind = k := of_decide_eq_true (List.mem_filter.mp he').2
  exact hcompat.cells_ne (hkind.trans hkind'.symm)

/-- The key of a row is its number. -/
theorem key_eq (h : Rows k es rows) (hk : k.schema.keyColumn? = some 0) {r : Record} (hr : r ∈ rows.entries) :
    Entry.keyOf r = r.1 := congrArg Datum.int (h.numbers r hr 0 hk)

/-- Rows are told apart by their keys. -/
theorem eq_of_key_eq (h : Rows k es rows) (hk : k.schema.keyColumn? = some 0) {r r' : Record}
    (hr : r ∈ rows.entries) (hr' : r' ∈ rows.entries) (heq : Entry.keyOf r = Entry.keyOf r') : r = r' := by
  rw [h.key_eq hk hr, h.key_eq hk hr'] at heq
  exact List.inj_on_of_nodup_map rows.nodup_keys hr hr' heq

/-- Sorting different rows by the key column puts them in strictly ascending order of their keys. -/
theorem pairwise_orderBy (h : Rows k es rows) (hk : k.schema.keyColumn? = some 0) {found : List Record}
    (hrows : ∀ r ∈ found, r ∈ rows.entries) (hnodup : found.Nodup) :
    (Sql.orderBy (fun r => Table.cell r.2 0) found).Pairwise fun r r' => Entry.keyOf r < Entry.keyOf r' := by
  apply Sql.orderBy_pairwise_lt
  · intro r hr
    rw [h.key_eq hk (hrows r hr)]
    exact h.numbers r (hrows r hr) 0 hk
  · exact hnodup.map_on fun r hr r' hr' => h.eq_of_key_eq hk (hrows r hr) (hrows r' hr')

end Rows

/-! ## The standard tables -/

namespace Loaded

variable {db : Database} {es : List Entry}

/-- A standard table is found under its name. -/
theorem table (h : Loaded db es) (k : Entry.Kind) :
    ∃ rows, db.table k.schema.name = .ok (k.table rows) ∧ Rows k es rows := by
  obtain ⟨rows, hget, hrows⟩ := h.tables k
  refine ⟨rows, ?_, hrows⟩
  rw [Database.table, Database.table?, ownTable?_name, Option.none_or, hget]

end Loaded

/-- What the query for groups names, in the standard tables. -/
def groupColumns (memberships groups : Keyed Int Cells) : GroupColumns where
  memberships := Entry.Kind.membership.table memberships
  groups := Entry.Kind.group.table groups
  id := 0
  title := 1
  rules := 3
  uid := 0
  status := 2
  groupId := 1

/-- What the query for rules names, in the standard table. -/
def ruleColumns (rules : Keyed Int Cells) : RuleColumns where
  rules := Entry.Kind.rule.table rules
  id := 0
  name := 1
  condition := some 4
  status := 3

section Columns

variable {db : Database} {memberships groups rules : Keyed Int Cells}

theorem find_groupColumns
    (hm : db.table Sql.defaultTables.groupAccess = .ok (Entry.Kind.membership.table memberships))
    (hg : db.table Sql.defaultTables.group = .ok (Entry.Kind.group.table groups)) :
    GroupColumns.find db Sql.defaultTables.groupAccess Sql.defaultTables.group =
      .ok (groupColumns memberships groups) := by
  rw [GroupColumns.find, hm, hg]
  rfl

theorem find_ruleColumns (hr : db.table Sql.defaultTables.rule = .ok (Entry.Kind.rule.table rules)) {count : Nat}
    (hcount : count ≤ Sql.valueLimit) :
    RuleColumns.find db Sql.defaultTables.rule count = .ok (ruleColumns rules) := by
  rw [RuleColumns.find, if_neg (Nat.not_lt.mpr hcount), hr]
  rfl

theorem header_groups
    (hm : db.table Sql.defaultTables.groupAccess = .ok (Entry.Kind.membership.table memberships))
    (hg : db.table Sql.defaultTables.group = .ok (Entry.Kind.group.table groups)) :
    (Sql.groupStatement Sql.defaultTables).header db = .ok ["id", "title", "rules"] := by
  show (GroupColumns.find db _ _ >>= fun _ => _) = _
  rw [find_groupColumns hm hg]
  rfl

theorem header_rules (hr : db.table Sql.defaultTables.rule = .ok (Entry.Kind.rule.table rules))
    {ids : Ascending RuleId} (hsize : ids.size ≤ Sql.valueLimit) :
    (Sql.ruleStatement Sql.defaultTables ids).header db = .ok ["id", "name", "condition"] := by
  show (RuleColumns.find db _ _ >>= fun _ => _) = _
  rw [find_ruleColumns hr hsize]
  rfl

theorem header_user {users : Keyed Int Cells}
    (hu : db.table Sql.defaultTables.user = .ok (Entry.Kind.user.table users)) (column : String) :
    (Sql.userStatement Sql.defaultTables column).header db =
      .ok ["uid", "name", "score", "balance", "title"] := by
  show (db.table _ >>= fun _ => _) = _
  rw [hu]
  rfl

/-- No way through the standard tables meets the groups in the order of the answer. -/
theorem groupColumns_sorted : (groupColumns memberships groups).plan.sorted = false := by
  rw [← GroupColumns.plan_clear]
  show (groupColumns ∅ ∅).plan.sorted = false
  decide +kernel

theorem isOf_membership (number : Int) (u u' : UserId) (g : GroupId) :
    (groupColumns memberships groups).isOf u (number, (Entry.membership u' g).cells) = decide (u' = u) := by
  refine (Sql.Operand.equals_given_integer u'.value u.value).trans (decide_eq_decide.mpr ?_)
  rw [UserId.mk.injEq]

theorem isActive_status (active : Bool) : Sql.isActive ⟨some .integer, Sql.status active⟩ = active := by
  cases active <;> rfl

theorem joins_group (number number' : Int) (u : UserId) (k : GroupId) (g : Group) (active : Bool) :
    (groupColumns memberships groups).joins (number, (Entry.membership u k).cells)
      (number', (Entry.group g active).cells) = (active && decide (k = g.id)) := by
  have hstatus := isActive_status active
  have hjoin := Sql.Operand.equals_integers k.value g.id.value
  refine (congrArg₂ (· && ·) hstatus hjoin).trans (congrArg (active && ·) (decide_eq_decide.mpr ?_))
  rw [GroupId.mk.injEq]

theorem isAmong_rule (number : Int) (ids : List RuleId) (r : Rule) (active : Bool) :
    (ruleColumns rules).isAmong ids (number, (Entry.rule r active).cells) = (active && decide (r.id ∈ ids)) := by
  have hstatus := isActive_status active
  have hids : (ids.any fun i => decide (r.id.value = i.value)) = decide (r.id ∈ ids) := by
    rw [Bool.eq_iff_iff, List.any_eq_true, decide_eq_true_iff]
    constructor
    · rintro ⟨i, hi, heq⟩
      have heq' : r.id = i := congrArg RuleId.mk (of_decide_eq_true heq)
      exact heq' ▸ hi
    · intro hmem
      exact ⟨r.id, hmem, decide_eq_true rfl⟩
  have hequals : (ids.any fun i =>
      ((ruleColumns rules).rules.operand 0 (number, (Entry.rule r active).cells)).equals
        (.given (.integer i.value))) = ids.any fun i => decide (r.id.value = i.value) :=
    congrArg ids.any (funext fun i => Sql.Operand.equals_given_integer r.id.value i.value)
  exact congrArg₂ (· && ·) hstatus (hequals.trans hids)

end Columns

/-! ## Rows that are found -/

section Found

variable {es : List Entry} {memberships groups rules users : Keyed Int Cells} {u : UserId} {r : Record}

/-- The groups that are met are the active ones of which the user is a member. -/
theorem mem_met_iff (hm : Rows .membership es memberships) (hg : Rows .group es groups) :
    r ∈ (groupColumns memberships groups).met u ↔ r ∈ groups.entries ∧
      ∃ g, .group g true ∈ es ∧ .membership u g.id ∈ es ∧ (Entry.group g true).cells = r.2 := by
  rw [GroupColumns.mem_met]
  refine and_congr_right fun hr => ?_
  obtain ⟨number, cells⟩ := r
  constructor
  · rintro ⟨⟨number', cells'⟩, hrow, hof, hjoins⟩
    obtain ⟨g, active, hgroup, rfl⟩ := hg.exists_group hr
    obtain ⟨u', k, hmembership, rfl⟩ := hm.exists_membership hrow
    rw [isOf_membership, decide_eq_true_iff] at hof
    rw [joins_group, Bool.and_eq_true, decide_eq_true_iff] at hjoins
    obtain ⟨rfl, rfl⟩ := hjoins
    subst hof
    exact ⟨g, hgroup, hmembership, rfl⟩
  · rintro ⟨g, -, hmembership, hcells⟩
    have hcells' : (Entry.group g true).cells = cells := hcells
    subst hcells'
    obtain ⟨number', hrow⟩ := hm.exists_row hmembership rfl
    refine ⟨_, hrow, ?_, ?_⟩
    · rw [isOf_membership, decide_eq_true_iff]
    · rw [joins_group, Bool.true_and, decide_eq_true_iff]

/-- No group is met twice. -/
theorem nodup_met (hm : Rows .membership es memberships) (hg : Rows .group es groups)
    (hes : es.Pairwise Entry.Compatible) : ((groupColumns memberships groups).met u).Nodup := by
  refine GroupColumns.nodup_met _ _ ?_
  have hne : memberships.entries.Pairwise fun m m' => m.2 ≠ m'.2 := List.pairwise_map.mp (hm.nodup_values hes)
  apply hne.imp_of_mem
  intro m m' hmem hmem' hne ⟨number, cells⟩ hgroup hof hof' hjoins hjoins'
  apply hne
  obtain ⟨g, active, -, rfl⟩ := hg.exists_group hgroup
  -- a membership of the user in this group has only one form
  have hform (m : Record) (hmem : m ∈ memberships.entries)
      (hof : (groupColumns memberships groups).isOf u m = true)
      (hjoins : (groupColumns memberships groups).joins m (number, (Entry.group g active).cells) = true) :
      m.2 = (Entry.membership u g.id).cells := by
    obtain ⟨number', cells⟩ := m
    obtain ⟨u', k, -, rfl⟩ := hm.exists_membership hmem
    rw [isOf_membership, decide_eq_true_iff] at hof
    rw [joins_group, Bool.and_eq_true, decide_eq_true_iff] at hjoins
    rw [hof, hjoins.2]
  rw [hform m hmem hof hjoins, hform m' hmem' hof' hjoins']

/-- The answer is sorted, because no plan for the standard tables meets the groups in its order. -/
theorem found_groups_eq : (groupColumns memberships groups).found u =
    Sql.orderBy (fun r => Table.cell r.2 0) ((groupColumns memberships groups).met u) := by
  unfold GroupColumns.found
  rw [groupColumns_sorted, if_neg Bool.false_ne_true]
  rfl

/-- Groups are answered in ascending order of their keys. -/
theorem pairwise_found_groups (hm : Rows .membership es memberships) (hg : Rows .group es groups)
    (hes : es.Pairwise Entry.Compatible) :
    ((groupColumns memberships groups).found u).Pairwise fun r r' => Entry.keyOf r < Entry.keyOf r' := by
  rw [found_groups_eq]
  exact hg.pairwise_orderBy rfl (fun r hr => ((mem_met_iff hm hg).mp hr).1) (nodup_met hm hg hes)

theorem mem_found_groups (hm : Rows .membership es memberships) (hg : Rows .group es groups) :
    r ∈ (groupColumns memberships groups).found u ↔ r ∈ groups.entries ∧
      ∃ g, .group g true ∈ es ∧ .membership u g.id ∈ es ∧ (Entry.group g true).cells = r.2 := by
  rw [found_groups_eq, (Sql.orderBy_perm _ _).mem_iff, mem_met_iff hm hg]

/-- The rules that are found are the active ones with one of the keys. -/
theorem mem_found_rules (hr : Rows .rule es rules) {ids : List RuleId} :
    r ∈ (ruleColumns rules).found ids ↔ r ∈ rules.entries ∧
      ∃ rule, .rule rule true ∈ es ∧ rule.id ∈ ids ∧ (Entry.rule rule true).cells = r.2 := by
  rw [((ruleColumns rules).found_perm ids).mem_iff, List.mem_filter]
  refine and_congr_right fun hrow => ?_
  obtain ⟨number, cells⟩ := r
  constructor
  · intro hamong
    obtain ⟨rule, active, hrule, rfl⟩ := hr.exists_rule hrow
    rw [isAmong_rule, Bool.and_eq_true, decide_eq_true_iff] at hamong
    obtain ⟨rfl, hid⟩ := hamong
    exact ⟨rule, hrule, hid, rfl⟩
  · rintro ⟨rule, -, hid, hcells⟩
    have hcells' : (Entry.rule rule true).cells = cells := hcells
    subst hcells'
    rw [isAmong_rule, Bool.true_and, decide_eq_true_iff]
    exact hid

/-- Rules are answered in ascending order of their keys. -/
theorem pairwise_found_rules (hr : Rows .rule es rules) (ids : List RuleId) :
    ((ruleColumns rules).found ids).Pairwise fun r r' => Entry.keyOf r < Entry.keyOf r' := by
  have hperm := ((ruleColumns rules).rules.visit_perm ((ruleColumns rules).plan ids.length)).filter
    ((ruleColumns rules).isAmong ids)
  have hnodup : rules.entries.Nodup := List.Nodup.of_map Prod.fst rules.nodup_keys
  refine hr.pairwise_orderBy rfl (fun r hmem => ?_) (hperm.nodup_iff.mpr (hnodup.filter _))
  exact (List.mem_filter.mp (hperm.mem_iff.mp hmem)).1

/-- A user is found by its key. -/
theorem userRow?_uid_eq_some_iff (hu : Rows .user es users) {cells : Cells} :
    (Entry.Kind.user.table users).userRow? u "uid" = some cells ↔
      ∃ name score, .user u name score ∈ es ∧ (Entry.user u name score).cells = cells := by
  have hequals (r : Record) (hr : r ∈ users.entries) :
      (((Entry.Kind.user.table users).columnOrText "uid").on r).equals (.given (.integer u.value)) =
        decide (Entry.keyOf r = u.value) := by
    show Sql.Operand.equals ⟨some .integer, Table.cell r.2 0⟩ _ = _
    rw [hu.numbers r hr 0 rfl, hu.key_eq rfl hr]
    exact Sql.Operand.equals_given_integer r.1 u.value
  have hunique : ∀ r ∈ users.entries, ∀ r' ∈ users.entries,
      (((Entry.Kind.user.table users).columnOrText "uid").on r).equals (.given (.integer u.value)) = true →
      (((Entry.Kind.user.table users).columnOrText "uid").on r').equals (.given (.integer u.value)) = true →
      r = r' := by
    intro r hr r' hr' h h'
    rw [hequals r hr, decide_eq_true_iff] at h
    rw [hequals r' hr', decide_eq_true_iff] at h'
    exact hu.eq_of_key_eq rfl hr hr' (h.trans h'.symm)
  rw [Table.userRow?_eq_some_iff hunique]
  constructor
  · rintro ⟨number, hrow, h⟩
    rw [hequals _ hrow, decide_eq_true_iff] at h
    obtain ⟨u', name, score, hmem, rfl⟩ := hu.exists_user hrow
    obtain rfl : u' = u := congrArg UserId.mk h
    exact ⟨name, score, hmem, rfl⟩
  · rintro ⟨name, score, hmem, rfl⟩
    obtain ⟨number, hrow⟩ := hu.exists_row hmem rfl
    refine ⟨number, hrow, ?_⟩
    rw [hequals _ hrow, decide_eq_true_iff]
    rfl

end Found

/-- A store over the default names of the tables, at some moment, and its connection to a database that a data set
    has filled. -/
structure Serves (s : Store) (c : Connection) (ds : DataSet) : Prop where
  tables : s.tables = Sql.defaultTables
  primaryKey : s.primaryKey c.database = some "uid"
  loaded : Loaded c.database ds.entries
  headers : c.Coherent

namespace Serves

variable {s : Store} {c : Connection} {ds : DataSet}

/-! ## Questions -/

theorem start {db : Database} (h : Loaded db ds.entries) :
    Serves { tables := Sql.defaultTables } { database := db } ds where
  tables := rfl
  primaryKey := by
    obtain ⟨rows, hget, -⟩ := h.tables .user
    have htable : db.table? (Entry.Kind.schema .user).name = some (Entry.Kind.user.table rows) := by
      rw [Database.table?, Loaded.ownTable?_name, Option.none_or, hget]
    show Sql.identifyingColumn? db (Entry.Kind.schema .user).name = _
    rw [Sql.identifyingColumn?, htable]
    rfl
  loaded := h
  headers := Connection.coherent_of_database db

theorem remember (h : Serves s c ds) (q : Statement) : Serves s (c.remember q) ds where
  tables := h.tables
  primaryKey := by rw [Connection.database_remember, h.primaryKey]
  loaded := by
    rw [Connection.database_remember]
    exact h.loaded
  headers := h.headers.remember q

/-- The query for a user by an identifier finds a row of the table, under the names of its columns. -/
theorem userCells_eq (h : Serves s c ds) {users : Keyed Int Cells}
    (hu : c.database.table Sql.defaultTables.user = .ok (Entry.Kind.user.table users)) (u : UserId)
    {column : String} (hcolumn : Text.isIdentifier column.toList = true) :
    Sql.userCells c s.tables u column =
      .ok (["uid", "name", "score", "balance", "title"], (Entry.Kind.user.table users).userRow? u column) := by
  rw [h.tables, Sql.userCells, hcolumn, h.headers.header_eq, header_user hu, hu]
  rfl

/-- The row of a user has as many cells as the answer has columns, so the query for it breaks no connection. -/
theorem afterUser (h : Serves s c ds) (u : UserId) (column : String) :
    Serves s (c.afterUser s.tables u column) ds := by
  obtain ⟨users, hu, hrows⟩ := h.loaded.table .user
  unfold Connection.afterUser
  by_cases hcolumn : Text.isIdentifier column.toList = true
  · rw [h.userCells_eq hu u hcolumn]
    cases hfound : (Entry.Kind.user.table users).userRow? u column with
    | none => exact h.remember _
    | some cells =>
      obtain ⟨number, hmem, -⟩ := Table.exists_row_of_userRow? hfound
      obtain ⟨u', name, score, -, rfl⟩ := hrows.exists_user hmem
      exact h.remember _
  · have herror : Sql.userCells c s.tables u column = .error (.invalidIdentifier column) := by
      rw [Bool.not_eq_true] at hcolumn
      rw [Sql.userCells, hcolumn]
      rfl
    rw [herror]
    exact h

/-- **A question** changes nothing that matters. -/
theorem observe (h : Serves s c ds) (q : Query) : Serves (s.observe c q).1 (s.observe c q).2 ds := by
  cases q with
  | groups u => exact h.remember _
  | rules ids =>
    show Serves s (if ids.isEmpty then c else _) ds
    by_cases hempty : ids.isEmpty = true
    · rw [if_pos hempty]
      exact h
    · rw [if_neg hempty]
      exact h.remember _
  | primaryKey => exact ⟨h.tables, h.primaryKey, h.loaded, h.headers⟩
  | attributes u column => exact h.afterUser u column
  | sessionRead key => exact h
  | sessionWrite key => exact h

/-- Nor do any number of them. -/
theorem observeAll (h : Serves s c ds) (qs : List Query) :
    Serves (s.observeAll c qs).1 (s.observeAll c qs).2 ds := by
  induction qs generalizing s c with
  | nil => exact h
  | cons q qs ih => exact ih (h.observe q)

/-! ## Answers -/

/-- **The groups of a user** are the active ones of which it is a member, in ascending order of their keys. -/
theorem groupsOf (h : Serves s c ds) (u : UserId) :
    ∃ gs, (s.backend c).groups u = .ok gs ∧ gs.Pairwise (fun g g' => g.id.value < g'.id.value) ∧
      ∀ g, g ∈ gs ↔ .group g true ∈ ds.entries ∧ .membership u g.id ∈ ds.entries := by
  obtain ⟨memberships, hm, hmrows⟩ := h.loaded.table .membership
  obtain ⟨groups, hg, hgrows⟩ := h.loaded.table .group
  let found := (groupColumns memberships groups).found u
  have hfound (r : Record) : r ∈ found ↔ _ := mem_found_groups hmrows hgrows
  have hanswer : Sql.groupsOf c s.tables u = .ok (found.map Entry.groupOf) := by
    rw [h.tables, Sql.groupsOf_eq_mapM ((h.headers.header_eq _).trans (header_groups hm hg))
      (find_groupColumns hm hg), GroupColumns.answer, List.mapM_map]
    refine mapM_eq_map fun r hr => ?_
    obtain ⟨-, g, -, -, hcells⟩ := (hfound r).mp hr
    obtain ⟨number, cells⟩ := r
    obtain rfl : (Entry.group g true).cells = cells := hcells
    exact Sql.groupIn_ok g
  refine ⟨found.map Entry.groupOf, congrArg (Except.mapError _) hanswer, ?_, fun g => ?_⟩
  · exact List.pairwise_map.mpr (pairwise_found_groups hmrows hgrows ds.compatible)
  · rw [List.mem_map]
    constructor
    · rintro ⟨⟨number, cells⟩, hr, rfl⟩
      obtain ⟨-, g, hgroup, hmembership, hcells⟩ := (hfound _).mp hr
      obtain rfl : (Entry.group g true).cells = cells := hcells
      exact ⟨hgroup, hmembership⟩
    · rintro ⟨hgroup, hmembership⟩
      obtain ⟨number, hrow⟩ := hgrows.exists_row hgroup rfl
      exact ⟨_, (hfound _).mpr ⟨hrow, g, hgroup, hmembership, rfl⟩, rfl⟩

/-- **The rules among a set of keys** are the active ones with one of the keys, in ascending order. -/
theorem rulesAmong (h : Serves s c ds) {ids : Ascending RuleId} (hsize : ids.size ≤ Sql.valueLimit) :
    ∃ rs, (s.backend c).rules ids = .ok rs ∧ rs.Pairwise (fun r r' => compare r.id r'.id = .lt) ∧
      ∀ r, r ∈ rs ↔ .rule r true ∈ ds.entries ∧ r.id ∈ ids := by
  obtain ⟨rules, hr, hrows⟩ := h.loaded.table .rule
  by_cases hempty : ids.isEmpty = true
  · -- the database is not asked
    refine ⟨[], ?_, .nil, fun r => iff_of_false List.not_mem_nil fun hr =>
      Ascending.not_mem_of_isEmpty hempty r.id hr.2⟩
    show (Sql.rulesAmong c s.tables ids).mapError _ = _
    rw [Sql.rulesAmong, if_pos hempty]
    rfl
  let found := (ruleColumns rules).found ids.toList
  have hfound (r : Record) : r ∈ found ↔ _ := mem_found_rules hrows
  have hanswer : Sql.rulesAmong c s.tables ids = .ok (found.map Entry.ruleOf) := by
    rw [h.tables, Sql.rulesAmong_eq_mapM (Bool.not_eq_true _ ▸ hempty)
      ((h.headers.header_eq _).trans (header_rules hr hsize)) (find_ruleColumns hr hsize), RuleColumns.answer,
      List.mapM_map]
    refine mapM_eq_map fun r hr => ?_
    obtain ⟨-, rule, -, -, hcells⟩ := (hfound r).mp hr
    obtain ⟨number, cells⟩ := r
    obtain rfl : (Entry.rule rule true).cells = cells := hcells
    exact Sql.ruleIn_ok rule
  refine ⟨found.map Entry.ruleOf, congrArg (Except.mapError _) hanswer, ?_, fun rule => ?_⟩
  · apply List.pairwise_map.mpr
    apply (pairwise_found_rules hrows ids.toList).imp
    intro r r' hlt
    show compare (Entry.keyOf r) (Entry.keyOf r') = .lt
    exact Int.compare_eq_lt.mpr hlt
  · rw [List.mem_map]
    constructor
    · rintro ⟨⟨number, cells⟩, hr, rfl⟩
      obtain ⟨-, rule, hrule, hid, hcells⟩ := (hfound _).mp hr
      obtain rfl : (Entry.rule rule true).cells = cells := hcells
      exact ⟨hrule, hid⟩
    · rintro ⟨hrule, hid⟩
      obtain ⟨number, hrow⟩ := hrows.exists_row hrule rfl
      exact ⟨_, (hfound _).mpr ⟨hrow, rule, hrule, hid, rfl⟩, rfl⟩

/-- **The row of a user** has its attributes. -/
theorem userRow (h : Serves s c ds) (u : UserId) :
    ∃ row?, (s.backend c).attributes u "uid" = .ok row? ∧
      ∀ row, row? = some row ↔ ∃ name score, .user u name score ∈ ds.entries ∧ row = attributeRow u name score := by
  obtain ⟨users, hu, hrows⟩ := h.loaded.table .user
  let found := (Entry.Kind.user.table users).userRow? u "uid"
  have hcells : Sql.userCells c s.tables u "uid" = .ok (["uid", "name", "score", "balance", "title"], found) :=
    h.userCells_eq hu u (by decide)
  have hfound (cells : Cells) : found = some cells ↔ _ := userRow?_uid_eq_some_iff hrows
  show ∃ row?, (Sql.userRow c s.tables u "uid").mapError _ = .ok row? ∧ _
  rw [Sql.userRow, hcells]
  cases hcase : found with
  | none =>
    refine ⟨none, rfl, fun row => iff_of_false (fun hrow => nomatch hrow) ?_⟩
    rintro ⟨name, score, hmem, -⟩
    rw [(hfound _).mpr ⟨name, score, hmem, rfl⟩] at hcase
    cases hcase
  | some cells =>
    obtain ⟨name, score, hmem, rfl⟩ := (hfound cells).mp hcase
    refine ⟨some (attributeRow u name score), rfl, fun row => ?_⟩
    rw [Option.some.injEq]
    constructor
    · rintro rfl
      exact ⟨name, score, hmem, rfl⟩
    · rintro ⟨name', score', hmem', rfl⟩
      -- the user has only one row
      have hother := ((hfound _).mpr ⟨name', score', hmem', rfl⟩).symm.trans hcase
      have hcells' : (Entry.user u name' score').cells = (Entry.user u name score).cells := Option.some.inj hother
      rw [← Entry.attributesOf_user, ← Entry.attributesOf_user, hcells']

end Serves

end Entitlement
