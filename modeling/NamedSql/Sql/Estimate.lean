/-!
# Estimates

How many rows there may be and what work may cost, on a scale of ten steps for a factor of two. On
this scale a product is a sum, and a sum is the greater of its parts and a little more.

## Main definitions

* `Estimate.ofNat` — a number on the scale
* `Estimate.add` — the sum of two estimated numbers
* `Estimate.log` — the logarithm of an estimated number

## Main results

* `Estimate.add_comm` — the order of the parts of a sum does not matter
* `Estimate.left_le_add`, `Estimate.right_le_add` — a sum is not less than its parts
-/

namespace NamedSql.Sql

namespace Estimate

/-- The steps for the first four binary digits of a number, of which the first one is set. -/
def fraction : List Int := [0, 2, 3, 5, 6, 7, 8, 9]

/-- A number on the scale, on which one is zero and doubling adds ten. -/
def ofNat (n : Nat) : Int :=
  if n < 2 then 0
  else 10 * n.log2 + fraction.getD ((8 * n) >>> n.log2 - 8) 0

/-- How much the greater of two numbers grows by the other one, for each distance. -/
def growth : List Int :=
  [10, 10, 9, 9, 8, 8, 7, 7, 7, 6, 6, 6, 5, 5, 5, 4, 4, 4, 4, 3, 3, 3, 3, 3, 3,
    2, 2, 2, 2, 2, 2, 2]

/-- How much the greater of two numbers grows by the other one, which is less the further they are
apart. -/
def growthAt (distance : Nat) : Int := if 49 < distance then 0 else growth.getD distance 1

/-- The sum of two numbers. On this scale it is hardly more than the greater of them. -/
def add (a b : Int) : Int := max a b + growthAt (a - b).natAbs

/-- The logarithm of a number, itself on the scale. -/
def log (a : Int) : Int := if a ≤ 10 then 0 else ofNat a.toNat - 33

theorem growthAt_nonneg (distance : Nat) : 0 ≤ growthAt distance := by
  have h : ∀ n < 50, 0 ≤ growthAt n := by decide
  by_cases hd : distance < 50
  · exact h distance hd
  · simp [growthAt, show 49 < distance by omega]

theorem add_comm (a b : Int) : add a b = add b a := by
  simp only [add, Int.max_comm a b, show (a - b).natAbs = (b - a).natAbs by omega]

theorem left_le_add (a b : Int) : a ≤ add a b := by
  have := growthAt_nonneg (a - b).natAbs
  unfold add
  omega

theorem right_le_add (a b : Int) : b ≤ add a b := add_comm b a ▸ left_le_add b a

end Estimate

end NamedSql.Sql
