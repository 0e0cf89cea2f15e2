import Entitlement.Proofs.Collection.Elements
import Entitlement.Sql.Statement
import Mathlib.Data.List.Nodup

/-!
# `Entitlement.Proofs.Sql.Queries` — what a query finds, whatever its plan

Which rows a query finds depends on the rows of its tables alone: the plan only decides in which order they are met
(`GroupColumns.met_perm`). The answer is then sorted by a column of integers (`orderBy_pairwise`), or the row that is
looked for is the only one (`Table.userRow?_eq_some_iff`). What a plan is depends on the columns and constraints of
the tables, and not on their rows (`Table.plannedJoin_clear`).
-/

namespace Entitlement.Sql

/-! ## Sorting -/

section Sorting

variable {α : Type} {value : α → Datum} {rows : List α}

theorem orderBy_perm (value : α → Datum) (rows : List α) : (orderBy value rows).Perm rows :=
  List.mergeSort_perm _ _

theorem isLE_compare_integer (i j : Int) :
    ((Datum.integer i).compare (.integer j)).isLE = decide (i ≤ j) := by
  rw [Bool.eq_iff_iff, decide_eq_true_iff]
  exact Int.isLE_compare

/-- Rows with an integer in the column come in its order. -/
theorem orderBy_pairwise {key : α → Int} (hkey : ∀ r ∈ rows, value r = .integer (key r)) :
    (orderBy value rows).Pairwise fun a b => key a ≤ key b := by
  have hmap : (orderBy value rows).map key = (rows.map key).mergeSort fun i j => decide (i ≤ j) := by
    refine List.map_mergeSort fun a ha b hb => ?_
    rw [hkey a ha, hkey b hb, isLE_compare_integer]
  have hsorted : ((orderBy value rows).map key).Pairwise fun i j => decide (i ≤ j) = true := by
    rw [hmap]
    refine List.pairwise_mergeSort (fun i j k hij hjk => ?_) (fun i j => ?_) _
    · exact decide_eq_true (Int.le_trans (of_decide_eq_true hij) (of_decide_eq_true hjk))
    · rw [Bool.or_eq_true, decide_eq_true_iff, decide_eq_true_iff]
      exact Int.le_total i j
  exact (List.pairwise_map.mp hsorted).imp of_decide_eq_true

/-- Rows with different integers in the column come in strictly ascending order. -/
theorem orderBy_pairwise_lt {key : α → Int} (hkey : ∀ r ∈ rows, value r = .integer (key r))
    (hnodup : (rows.map key).Nodup) : (orderBy value rows).Pairwise fun a b => key a < key b := by
  have hnodup' : ((orderBy value rows).map key).Nodup := ((orderBy_perm value rows).map key).nodup_iff.mpr hnodup
  have hne : (orderBy value rows).Pairwise fun a b => key a ≠ key b := List.pairwise_map.mp hnodup'
  exact ((orderBy_pairwise hkey).and hne).imp fun h => Int.lt_iff_le_and_ne.mpr h

end Sorting

/-! ## Plans -/

namespace Table

variable (t : Table) (q : Request)

theorem indexSearches_clear (positions rest : List Nat) (used : List Restriction) (searches : Estimate) :
    indexSearches t.clear q positions rest used searches = indexSearches t q positions rest used searches := by
  induction rest generalizing used searches with
  | nil => rfl
  | cons p rest ih =>
    simp only [indexSearches, ih]
    rfl

theorem routes_clear : t.clear.routes q = t.routes q := by
  have hindex (positions : List Nat) : indexRoutes t.clear q positions = indexRoutes t q positions := by
    simp only [indexRoutes, indexSearches_clear]
    rfl
  simp only [routes, hindex]
  rfl

/-- How two tables are visited has nothing to do with their rows. -/
theorem plannedJoin_clear (first second : Table) (q r : Request) :
    first.clear.plannedJoin second.clear q r = first.plannedJoin second q r := by
  simp only [plannedJoin, routes_clear]

end Table

namespace GroupColumns

variable (c : GroupColumns) (u : UserId)

/-- The query over the same tables without their rows. -/
def clear : GroupColumns := { c with memberships := c.memberships.clear, groups := c.groups.clear }

theorem plan_clear : c.clear.plan = c.plan := Table.plannedJoin_clear _ _ _ _

/-- **The join.** Whichever table is visited first and in which order, the groups that are met are those that the
    user's memberships join, once for every membership. -/
theorem met_perm : (c.met u).Perm ((c.memberships.rows.entries.filter (c.isOf u)).flatMap fun m =>
    c.groups.rows.entries.filter (c.joins m)) := by
  have hmemberships := (c.memberships.visit_perm c.plan.firstOrder).filter (c.isOf u)
  have hgroups := c.groups.visit_perm c.plan.secondOrder
  unfold met
  by_cases h : c.plan.isFirstOuter = true
  · simp only [if_pos h]
    exact hmemberships.flatMap fun m _ => hgroups.filter (c.joins m)
  · simp only [if_neg h]
    -- a group for every membership that joins it is, for every membership, the groups that it joins
    let pair (m g : Record) : List Record := if c.joins m g then [g] else []
    have hinner (ms : List Record) (g : Record) :
        ((ms.filter fun m => c.joins m g).map fun _ => g) = ms.flatMap fun m => pair m g :=
      map_filter_eq_flatMap (fun _ => g) (fun m => c.joins m g) ms
    have houter (gs : List Record) (m : Record) : gs.filter (c.joins m) = gs.flatMap (pair m) := by
      rw [← List.map_id' (gs.filter (c.joins m))]
      exact map_filter_eq_flatMap (fun g => g) (c.joins m) gs
    simp only [hinner, houter]
    refine (flatMap_comm _ _ fun g m => pair m g).trans ?_
    exact hmemberships.flatMap fun m _ => hgroups.flatMap_right (pair m)

theorem mem_met {g : Record} : g ∈ c.met u ↔ g ∈ c.groups.rows.entries ∧
    ∃ m ∈ c.memberships.rows.entries, c.isOf u m = true ∧ c.joins m g = true := by
  rw [(c.met_perm u).mem_iff, List.mem_flatMap]
  simp only [List.mem_filter]
  constructor
  · rintro ⟨m, ⟨hm, hof⟩, hg, hjoins⟩
    exact ⟨hg, m, hm, hof, hjoins⟩
  · rintro ⟨hg, m, hm, hof, hjoins⟩
    exact ⟨m, ⟨hm, hof⟩, hg, hjoins⟩

/-- No group is met twice if no two memberships of the user join one. -/
theorem nodup_met (h : c.memberships.rows.entries.Pairwise fun m m' => ∀ g ∈ c.groups.rows.entries,
    c.isOf u m = true → c.isOf u m' = true → c.joins m g = true → c.joins m' g = true → False) :
    (c.met u).Nodup := by
  have hrows : c.groups.rows.entries.Nodup := List.Nodup.of_map Prod.fst c.groups.rows.nodup_keys
  rw [(c.met_perm u).nodup_iff, List.nodup_flatMap]
  refine ⟨fun m _ => hrows.filter (c.joins m), ?_⟩
  have hof : (c.memberships.rows.entries.filter (c.isOf u)).Pairwise fun m m' =>
      c.isOf u m = true ∧ c.isOf u m' = true := by
    refine List.pairwise_of_forall_mem_list fun m hm m' hm' => ?_
    exact ⟨(List.mem_filter.mp hm).2, (List.mem_filter.mp hm').2⟩
  refine ((h.filter (c.isOf u)).and hof).imp fun hmm g hg hg' => ?_
  obtain ⟨hrow, hjoins⟩ := List.mem_filter.mp hg
  exact hmm.1 g hrow hmm.2.1 hmm.2.2 hjoins (List.mem_filter.mp hg').2

end GroupColumns

/-! ## Rules and users -/

/-- The active rules among some keys in the order of the answer. -/
def RuleColumns.found (c : RuleColumns) (ids : List RuleId) : List Record :=
  orderBy (fun r => Table.cell r.2 c.id) ((c.rules.visit (c.plan ids.length)).filter (c.isAmong ids))

theorem RuleColumns.found_perm (c : RuleColumns) (ids : List RuleId) :
    (c.found ids).Perm (c.rules.rows.entries.filter (c.isAmong ids)) :=
  (orderBy_perm _ _).trans ((c.rules.visit_perm (c.plan ids.length)).filter (c.isAmong ids))

namespace Table

variable {t : Table} {u : UserId} {column : String} {cells : Cells}

/-- What is found by a user's key is a row of the table with the key in the column. -/
theorem exists_row_of_userRow? (h : t.userRow? u column = some cells) :
    ∃ number, (number, cells) ∈ t.rows.entries ∧
      ((t.columnOrText column).on (number, cells)).equals (.given (.integer u.value)) = true := by
  unfold userRow? at h
  obtain ⟨r, hr, rfl⟩ := Option.map_eq_some_iff.mp h
  have hmem := (t.visit_perm (t.lookupOrder (t.position? column))).mem_iff.mp (List.mem_of_find?_eq_some hr)
  have hequals := List.find?_some hr
  exact ⟨r.1, hmem, hequals⟩

/-- The only row with a user's key in a column is found, whichever way the table is visited. -/
theorem userRow?_eq_some_iff
    (hunique : ∀ r ∈ t.rows.entries, ∀ r' ∈ t.rows.entries,
      ((t.columnOrText column).on r).equals (.given (.integer u.value)) = true →
      ((t.columnOrText column).on r').equals (.given (.integer u.value)) = true → r = r') :
    t.userRow? u column = some cells ↔ ∃ number, (number, cells) ∈ t.rows.entries ∧
      ((t.columnOrText column).on (number, cells)).equals (.given (.integer u.value)) = true := by
  constructor
  · exact exists_row_of_userRow?
  · rintro ⟨number, hmem, hequals⟩
    have hperm := t.visit_perm (t.lookupOrder (t.position? column))
    have hfind := (find?_eq_some_iff fun r hr r' hr' =>
      hunique r (hperm.mem_iff.mp hr) r' (hperm.mem_iff.mp hr')).mpr ⟨hperm.mem_iff.mpr hmem, hequals⟩
    exact Option.map_eq_some_iff.mpr ⟨(number, cells), hfind, rfl⟩

end Table

end Entitlement.Sql
