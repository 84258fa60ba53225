import ModuleDocs.Decimal.Double

/-! # The shortest decimal of a double

    Every real number between the midpoints to the neighbouring doubles rounds
    to the double; the midpoints themselves do when the mantissa is even.  The
    shortest decimal is the first grid of one, two, … significant digits with
    a point in that interval, and on that grid the point nearest to the value. -/

namespace ModuleDocs.Double

/-- The decimals `digits · 10 ^ power` that round to a double, as bounds over one denominator.
`value` is the double itself; `closed` says whether the bounds belong to the interval. -/
structure Interval where
  low : Nat
  value : Nat
  high : Nat
  denominator : Nat
  closed : Bool

/-- The interval of a positive mantissa and an exponent.  Below a power of two the lower neighbour
is half as far as the upper one. -/
def interval (m : Nat) (e : Int) : Interval :=
  let narrow := decide (m = twoTo 52 ∧ leastExponent < e)
  let low := if narrow then 4 * m - 1 else 4 * m - 2
  match e - 2 with
  | .ofNat k => ⟨low * twoTo k, 4 * m * twoTo k, (4 * m + 2) * twoTo k, 1, m % 2 = 0⟩
  | .negSucc k => ⟨low, 4 * m, 4 * m + 2, twoTo (k + 1), m % 2 = 0⟩

/-- Whether `q · unitNum / unitDen` lies in the interval. -/
def Interval.holds (i : Interval) (unitNum unitDen q : Nat) : Bool :=
  let point := q * unitNum * i.denominator
  if i.closed then i.low * unitDen ≤ point && point ≤ i.high * unitDen
  else i.low * unitDen < point && point < i.high * unitDen

/-- Ten to an integer power as a quotient. -/
def powerOfTen : Int → Nat × Nat
  | .ofNat k => (tenTo k, 1)
  | .negSucc k => (1, tenTo (k + 1))

/-- The point of the grid of unit `10 ^ power` that is nearest to the value among those in the
interval; of two equally near ones, the even one. -/
def Interval.nearest? (i : Interval) (power : Int) : Option Nat :=
  let (un, ud) := powerOfTen power
  let num := i.value * ud
  let den := i.denominator * un
  let q := num / den
  let r := num % den
  match i.holds un ud q, i.holds un ud (q + 1) with
  | true, true => some (if 2 * r < den || (2 * r = den && q % 2 = 0) then q else q + 1)
  | true, false => some q
  | false, true => some (q + 1)
  | false, false => none

/-- The power of ten of the leading digit of `num / den`, searched downwards from `start`. -/
def leadingPower (num den : Nat) (start : Int) : Nat → Int
  | 0 => start
  | fuel + 1 =>
    let (un, ud) := powerOfTen start
    if un * den ≤ num * ud then start else leadingPower num den (start - 1) fuel

/-- Tries grids of `n`, `n + 1`, … significant digits; seventeen always suffice. -/
def Interval.shortestFrom (i : Interval) (lead : Int) (n : Nat) : Nat → Nat × Int
  | 0 => (0, 0)
  | fuel + 1 =>
    let power := lead - n + 1
    match i.nearest? power with
    | some q => (q, power)
    | none => i.shortestFrom lead (n + 1) fuel

/-- Significant digits and a power of ten: the shortest decimal that rounds to `m · 2 ^ e`, for
positive `m`. -/
def shortest (m : Nat) (e : Int) : Nat × Int :=
  let i := interval m e
  let estimate : Int := ((i.value.log2 : Int) - (i.denominator.log2 : Int)) * 30103 / 100000 + 1
  i.shortestFrom (leadingPower i.value i.denominator estimate 4) 1 18

end ModuleDocs.Double
