/-! The fewest decimal digits that read back as a given binary64 number. A finite number is
`m * 2 ^ q`; the reals that round to it form an interval, and the answer is a point of the coarsest
decimal grid that meets it. All comparisons are exact. -/

namespace PreviewHub

/-- A binary64 number, known by its bits: `0.0` and `-0.0` differ. -/
structure Real64 where
  bits : UInt64
  deriving DecidableEq, Repr, Inhabited

namespace Real64

def ofFloat (x : Float) : Real64 := ⟨x.toBits⟩

def negative (x : Real64) : Bool := Nat.pow 2 63 ≤ x.bits.toNat

def exponentField (x : Real64) : Nat := x.bits.toNat / Nat.pow 2 52 % Nat.pow 2 11

def fractionField (x : Real64) : Nat := x.bits.toNat % Nat.pow 2 52

def magnitude (x : Real64) : Nat × Int :=
  if x.exponentField = 0 then (x.fractionField, -1074)
  else (Nat.pow 2 52 + x.fractionField, Int.ofNat x.exponentField - 1075)

/-- Just above a power of two the next number below is half as far away as the next one above. -/
def narrowBelow (x : Real64) : Bool := x.fractionField = 0 && 1 < x.exponentField

end Real64

namespace Decimal

structure Scaled where
  digits : Nat
  exponent : Int
  deriving DecidableEq, Repr

/-- The reals between `low` and `high` quarters of a unit `2 ^ q`, ends included if `closed`. -/
structure Interval where
  low : Nat
  high : Nat
  middle : Nat
  unit : Int
  closed : Bool

/-- The reals that round to `x`, ties going to an even significand. -/
def roundingInterval (x : Real64) : Interval :=
  let (m, q) := x.magnitude
  { low := if x.narrowBelow then 4 * m - 1 else 4 * m - 2
    high := 4 * m + 2
    middle := 4 * m
    unit := q - 2
    closed := m % 2 == 0 }

/-- `n` units of the interval, on the common scale of the interval and the grid of `10 ^ k`. -/
def Interval.scale (i : Interval) (k : Int) (n : Nat) : Nat :=
  n * Nat.pow 2 i.unit.toNat * Nat.pow 10 (-k).toNat

def Interval.gridPoint (i : Interval) (k : Int) (d : Nat) : Nat :=
  d * Nat.pow 10 k.toNat * Nat.pow 2 (-i.unit).toNat

def Interval.meets (i : Interval) (k : Int) (d : Nat) : Bool :=
  let p := i.gridPoint k d
  if i.closed then i.scale k i.low ≤ p && p ≤ i.scale k i.high
  else i.scale k i.low < p && p < i.scale k i.high

/-- The point of the grid of `10 ^ k` nearest to the middle, if one lies in the interval. A tie goes
to the even one. -/
def Interval.nearest? (i : Interval) (k : Int) : Option Nat :=
  let v := i.scale k i.middle
  let d := v / i.gridPoint k 1
  match i.meets k d, i.meets k (d + 1) with
  | true, true =>
    let below := v - i.gridPoint k d
    let above := i.gridPoint k (d + 1) - v
    if below < above || (below == above && d % 2 == 0) then some d else some (d + 1)
  | true, false => some d
  | false, true => some (d + 1)
  | false, false => none

/-- Tries the grids of `10 ^ k`, `10 ^ (k - 1)`, … in turn. -/
def Interval.coarsest (i : Interval) : Nat → Int → Scaled
  | 0, k => ⟨0, k⟩
  | n + 1, k =>
    match i.nearest? k with
    | some d => ⟨d, k⟩
    | none => i.coarsest n (k - 1)

/-- The shortest decimal of a finite number other than zero: no binary64 number is above `10 ^ 309`,
and all are on the grid of `10 ^ (-1074)`. -/
def shortest (x : Real64) : Scaled := (roundingInterval x).coarsest 1400 309

end Decimal

end PreviewHub
