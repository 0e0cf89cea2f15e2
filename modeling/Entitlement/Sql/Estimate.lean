/-!
# `Entitlement.Sql.Estimate` — amounts on a logarithmic scale

What a query costs and how many rows it finds is estimated before it is run, and only the size of the amount
counts. Estimates are kept on a scale on which ten more is twice as much, in whole numbers.

## Contents
- **`Estimate`**; a product of amounts is a sum of estimates.
- **`ofNat`, `sum`**: the estimate of a number, and of a sum of two amounts.
- **`search`**: the steps of a search among a number of rows.
-/

namespace Entitlement.Sql

/-- Ten times the logarithm of an amount to base two. -/
abbrev Estimate := Int

namespace Estimate

/-- The estimate of a number, by the place of its leading bit and the three bits behind it. -/
def ofNat (n : Nat) : Estimate :=
  10 * n.log2 + [0, 2, 3, 5, 6, 7, 8, 9].getD (((n * 8) >>> n.log2) % 8) 0

/-- How much an amount grows by another, by how far the other is below it. -/
def gain (distance : Nat) : Nat :=
  [10, 10, 9, 9, 8, 8, 7, 7, 7, 6, 6, 6, 5, 5, 5, 4, 4, 4, 4, 3, 3, 3, 3, 3, 3, 2, 2, 2, 2, 2, 2, 2].getD
    distance (if distance < 50 then 1 else 0)

/-- The estimate of the sum of two amounts. -/
def sum (a b : Estimate) : Estimate := max a b + gain (a - b).natAbs

/-- The steps that it takes to find one of a number of rows that are in order. -/
def search (rows : Estimate) : Estimate := if rows ≤ 10 then 0 else ofNat rows.toNat - 33

example : ofNat 200 = 76 ∧ ofNat 1000 = 99 ∧ sum 33 33 = 43 ∧ search 200 = 43 := by decide

end Estimate

end Entitlement.Sql
