import Entitlement.Sql.Estimate
import Entitlement.Sql.Table

/-!
# `Entitlement.Sql.Plan` — the order in which a query meets its rows

What a query finds does not depend on the order in which rows are met, but rows with equal values in the
column that sorts the answer stay in that order, and an answer that comes sorted is not sorted again. A table
can be visited by different routes: in the order of its row numbers, in the order of a constraint, or, inside
another table's visit, through an order that is made for the query. A plan takes the routes that cost least by
estimate. Nothing about the rows themselves enters the estimates: every table is taken to be equally long.

## Contents
- **What is assumed**: `rowEstimate` and the other amounts that stand for what is not known.
- **`Request`**: what a query asks of one table, a list of `Restriction`s and what it reads.
- **`Route`**, `Table.routes`: the ways to visit a table for a request.
- **`Course`**, `settle`: a way through the whole query, and the cheapest of them.
- **`Table.planned`, `Table.plannedJoin`**: the order of visiting for one table, and for two.
-/

namespace Entitlement.Sql

/-! ## What is assumed -/

/-- The number of rows that every table is taken to have. -/
def rowEstimate : Estimate := 200

/-- The cost of going to a row. -/
def rowCost : Estimate := 16

/-- The number of rows that are taken to agree in the first columns of a constraint. All columns of it are those
    of one row only. -/
def agreeing (length pinned : Nat) : Estimate :=
  if pinned = length then 0 else [33, 32, 30, 28, 27].getD (pinned - 1) 23

/-- The number of rows that are taken to agree in the columns of an order that is made for a query. -/
def temporaryAgreeing : Estimate := 43

/-- The cost of making an order for a query. -/
def temporaryCost : Estimate := Estimate.search rowEstimate + rowEstimate + 28

/-! ## Requests -/

/-- What a query asks of a column. -/
inductive Demand where
  /-- It equals a given value. -/
  | value
  /-- It equals one. -/
  | flag
  /-- It is one of a number of given values. -/
  | among (count : Nat)
  /-- It equals a column of the other table. -/
  | partner
  deriving DecidableEq

namespace Demand

/-- Whether the rows that meet the demand agree in the column. -/
def pins : Demand → Bool
  | .among _ => false
  | .value | .flag | .partner => true

/-- How many searches the demand takes. -/
def searches : Demand → Estimate
  | .among n => Estimate.ofNat n
  | .value | .flag | .partner => 0

/-- How much fewer rows are left by the demand. -/
def reduction : Demand → Estimate
  | .value => 20
  | .flag => 10
  | .among _ | .partner => 0

end Demand

/-- What a query asks of one column. -/
structure Restriction where
  position : Nat
  demand : Demand
  /-- Whether the values can be searched for where the column is in order. -/
  searchable : Bool := true
  deriving DecidableEq

/-- What a query asks of one table. -/
structure Request where
  restrictions : List Restriction
  /-- The positions of the columns that the query reads or compares. -/
  needed : List Nat
  /-- The position of the column that sorts the answer, if it is one of this table. -/
  sorting : Option Nat := none
  /-- The number of restrictions of other tables that are checked first. -/
  elsewhere : Nat := 0

namespace Request

/-- The number of rows that are left of those a route meets when it uses only some of the restrictions. -/
def left (q : Request) (met : Estimate) (used : List Restriction) : Estimate :=
  -- A restriction to a row of the other table can be checked only on a route that uses it.
  let rest := q.restrictions.filter fun r => r ∉ used ∧ r.demand ≠ .partner
  min (met - rest.length) (rowEstimate - (rest.map fun r => r.demand.reduction).foldl max 0)

/-- Whether all rows that are found agree in the column that sorts them. -/
def isSortingPinned (q : Request) : Bool :=
  q.restrictions.any fun r => q.sorting = some r.position && (r.demand = .value || r.demand = .flag)

end Request

/-! ## Routes -/

/-- A way to visit the rows that a table is asked for. -/
structure Route where
  /-- The positions of the columns by which the rows are visited; behind them the row number counts. -/
  order : List Nat
  /-- Whether a row of the other table has to be known. -/
  dependent : Bool
  /-- What it costs to make the order, if it is made for the query. -/
  preparation : Option Estimate := none
  /-- The cost of a visit. -/
  cost : Estimate
  /-- The number of rows that a visit finds. -/
  rows : Estimate
  /-- Whether the rows come as the answer is sorted. -/
  sorted : Bool

namespace Table

/-- How wide a column is taken to be. -/
def columnWidth (t : Table) (position : Nat) : Nat :=
  match t.columnType position with
  | .text | .blob => 5
  | .untyped | .integer | .real => 1

/-- The width of some columns and of a row number beside them. -/
def width (t : Table) (positions : List Nat) (numbered : Bool) : Estimate :=
  Estimate.ofNat (4 * (positions.map t.columnWidth).foldl (· + ·) (if numbered then 1 else 0))

/-- The width of the rows. -/
def rowWidth (t : Table) : Estimate := t.width (List.range t.columns.length) t.keyColumn?.isNone

/-- The first column of a constraint that is not pinned by the restrictions used on it in turn. -/
def firstFree : List Nat → List Restriction → Option Nat
  | [], _ => none
  | p :: _, [] => some p
  | p :: ps, r :: rs => if r.demand.pins then firstFree ps rs else some p

variable (t : Table) (q : Request)

/-- A route that uses some of the restrictions to meet a number of rows. -/
def route (order : List Nat) (used : List Restriction) (cost met : Estimate) (sorted : Bool) : Route where
  order
  dependent := used.any fun r => r.demand = .partner
  cost
  rows := q.left met used
  sorted := sorted || q.isSortingPinned

/-- The routes by row number: through all rows, or to a row whose number is known. -/
def rowRoutes : List Route :=
  route q [] [] (rowEstimate + rowCost) rowEstimate false ::
    (q.restrictions.filter fun r => t.keyColumn? = some r.position).map fun r =>
      route q [] [r] (Estimate.sum (Estimate.search rowEstimate) rowCost + r.demand.searches)
        r.demand.searches r.demand.pins

/-- Whether a constraint holds all columns that are needed, so that no row has to be gone to. -/
def covers (positions : List Nat) : Bool := q.needed.all fun p => p ∈ positions

/-- What an entry in the order of a constraint costs, by its share in the width of a row. -/
def entryCost (positions : List Nat) : Estimate := 1 + 15 * t.width positions true / t.rowWidth

/-- The cost of going to the rows behind all entries of a constraint, less those that are left out because a
    restriction on the entry fails. -/
def fetchCost (positions : List Nat) : Estimate :=
  (q.restrictions.takeWhile fun r => r.position ∈ positions).foldl
    (fun cost r => cost - match r.demand with | .among _ => 1 | .value | .flag => 20 | .partner => 40)
    (rowEstimate + rowCost - 20 * q.elsewhere)

/-- The route through all entries of a constraint. -/
def indexScan (positions : List Nat) : Route :=
  let entries := rowEstimate + t.entryCost positions
  route q positions []
    (if covers q positions then entries else Estimate.sum entries (fetchCost q positions)) rowEstimate
    (firstFree positions [] = q.sorting)

/-- The routes that search the entries of a constraint by more and more of its columns, of which `rest` are
    left. -/
def indexSearches (positions : List Nat) : List Nat → List Restriction → Estimate → List Route
  | [], _, _ => []
  | p :: rest, used, searches =>
    (q.restrictions.filter fun r => r.position = p && r.searchable).flatMap fun r =>
      let used := used ++ [r]
      let searches := searches + r.demand.searches
      let found := agreeing positions.length used.length
      let entries := Estimate.sum (Estimate.search rowEstimate) (found + t.entryCost positions)
      let cost := if covers q positions then entries else Estimate.sum entries (found + rowCost)
      let free := firstFree positions used
      route q positions used (cost + searches) (found + searches) (free = none || free = q.sorting) ::
        indexSearches positions rest used searches

/-- The routes by a constraint. Its entries are worth visiting all only if they are narrower than the rows and
    hold what is needed, or if they come as the answer is sorted. -/
def indexRoutes (positions : List Nat) : List Route :=
  let worthwhile := covers q positions && t.width positions true < t.rowWidth
  let sorting := q.sorting.any fun p => p ∈ positions
  (if worthwhile || sorting then [indexScan t q positions] else []) ++
    indexSearches t q positions positions [] 0

/-- The route by an order that is made for the query, by the columns that can be searched and then the other
    ones that are needed. It needs a restriction on a column by which no other order begins. -/
def temporaryRoute : List Route :=
  let searched := q.restrictions.filter fun r => r.demand.pins && r.searchable
  let useful := searched.any fun r =>
    t.keyColumn? ≠ some r.position && !t.constraints.any fun c => c.positions.head? = some r.position
  let keys := searched.map Restriction.position
  -- The columns from here on are taken together: one that is needed brings the others with it.
  let tail := 63
  let others := (List.range t.columns.length).filter fun p =>
    if p < tail then p ∈ q.needed && p ∉ keys else q.needed.any fun n => tail ≤ n
  if useful then
    [{ order := keys ++ others
       -- It pays only where it is used again for every row of the other table.
       dependent := true
       preparation := some temporaryCost
       cost := Estimate.sum (Estimate.search rowEstimate) temporaryAgreeing
       rows := temporaryAgreeing
       sorted := false }]
  else []

/-- All routes to the rows that are asked for. -/
def routes : List Route :=
  rowRoutes t q ++ t.constraints.flatMap (fun c => indexRoutes t q c.positions) ++ temporaryRoute t q

end Table

/-! ## Courses -/

/-- A way through a query. -/
structure Course (α : Type) where
  /-- The cost of finding the rows. -/
  work : Estimate
  /-- The number of rows that are found. -/
  rows : Estimate
  /-- Whether the rows are found as the answer is sorted. -/
  sorted : Bool
  choice : α

/-- The cost of a course, with that of sorting the given number of rows where they have to be sorted. -/
def Course.cost {α : Type} (c : Course α) (sorting : Option Estimate) : Estimate :=
  match sorting with
  | some n => if c.sorted then c.work else Estimate.sum c.work (n + 10 + Estimate.search n)
  | none => c.work

/-- The order of courses by cost, then by the rows that are found and the work that finds them. -/
def Course.compare {α : Type} (sorting : Option Estimate) (a b : Course α) : Ordering :=
  (Ord.compare (a.cost sorting) (b.cost sorting)).then
    ((Ord.compare a.rows b.rows).then (Ord.compare a.work b.work))

/-- The best course; of those that are equally good the first. -/
def bestCourse {α : Type} (sorting : Option Estimate) : List (Course α) → Option (Course α)
  | [] => none
  | c :: rest =>
    match bestCourse sorting rest with
    | some d => if (Course.compare sorting d c).isLT then some d else some c
    | none => some c

/-- The courses that visit one table. -/
def aloneCourses (routes : List Route) : List (Course (List Nat)) :=
  (routes.filter fun r => !r.dependent).map fun r => ⟨r.cost, r.rows, r.sorted, r.order⟩

/-- The courses that visit one table by its best route and another one for each row of the first. -/
def nestedCourses (outer inner : List Route) (sorting : Option Estimate) :
    List (Course (List Nat × List Nat)) :=
  -- Only the best route of the outer table is followed up, so that not all pairs are compared.
  match bestCourse sorting (aloneCourses outer) with
  | none => []
  | some first => inner.map fun r =>
    let visits := r.cost + first.rows
    let visits := match r.preparation with
      | some p => Estimate.sum p visits
      | none => visits
    ⟨Estimate.sum visits first.work, first.rows + r.rows, first.sorted, (first.choice, r.order)⟩

/-- The choice of the best course. How many rows are to be sorted is taken from the course that is best when
    sorting is free. -/
def settle {α : Type} (courses : Option Estimate → List (Course α)) : Option α :=
  (bestCourse none (courses none)).bind fun first =>
    let sorting := some (max first.rows 0 + 1)
    (bestCourse sorting (courses sorting)).map Course.choice

/-! ## Plans -/

/-- How two tables are visited, one for each row of the other. -/
structure Join where
  /-- Whether the first table is the outer one. -/
  isFirstOuter : Bool
  firstOrder : List Nat
  secondOrder : List Nat
  /-- Whether the rows are met as the answer is sorted, so that they stay as they are met. -/
  sorted : Bool
  deriving DecidableEq

namespace Table

/-- The order in which a table is visited for a request. -/
def planned (t : Table) (q : Request) : List Nat := (settle fun _ => aloneCourses (t.routes q)).getD []

/-- How two tables are visited for a request on each. -/
def plannedJoin (first second : Table) (q r : Request) : Join :=
  let firstRoutes := first.routes q
  let secondRoutes := second.routes r
  let ofFirst (c : Course (List Nat × List Nat)) : Course Join :=
    { c with choice := ⟨true, c.choice.1, c.choice.2, c.sorted⟩ }
  let ofSecond (c : Course (List Nat × List Nat)) : Course Join :=
    { c with choice := ⟨false, c.choice.2, c.choice.1, c.sorted⟩ }
  let courses (sorting : Option Estimate) : List (Course Join) :=
    (nestedCourses firstRoutes secondRoutes sorting).map ofFirst ++
      (nestedCourses secondRoutes firstRoutes sorting).map ofSecond
  (settle courses).getD ⟨true, [], [], false⟩

end Table

end Entitlement.Sql
