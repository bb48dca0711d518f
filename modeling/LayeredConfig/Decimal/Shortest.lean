import LayeredConfig.Decimal.Binary64

/-!
# Shortest decimal digits

The shortest decimal digits of a number are the fewest that read back as the same number, and of
those the nearest to it.  The numbers that read back form an interval around the number; its ends
belong to it when the significand is even.  For one digit, two digits and so on, only the two
neighbours of the number on that decimal grid have to be tried.
-/

set_option autoImplicit false

namespace LayeredConfig.Decimal

inductive Tie where
  | up
  | even
  deriving DecidableEq, Repr

/-- A positive decimal number `0.d₁d₂… × 10 ^ point` with its digits. -/
structure Digits where
  digits : List Char
  point : Int
  deriving DecidableEq, Repr

/-- A ratio of naturals with a positive denominator, and the interval that reads back as it. -/
structure Interval where
  low : Nat
  value : Nat
  high : Nat
  den : Nat
  closed : Bool

/-- The interval of the number `significand * 2 ^ exponent`.  Below a power of two the next number
is half as far away. -/
def Interval.ofFinite (significand : Nat) (exponent : Int) : Interval :=
  let lower :=
    if significand = Nat.pow 2 (Binary64.precision - 1) ∧ Binary64.minExponent < exponent then 1
    else 2
  let scale := Nat.pow 2 (exponent - 2).toNat
  { low := (4 * significand - lower) * scale
    value := 4 * significand * scale
    high := (4 * significand + 2) * scale
    den := Nat.pow 2 (2 - exponent).toNat
    closed := significand % 2 == 0 }

/-- The test whether `candidate * 10 ^ grid` reads back. -/
def Interval.holds (interval : Interval) (candidate : Nat) (grid : Int) : Bool :=
  let point := candidate * interval.den * Nat.pow 10 grid.toNat
  let unit := Nat.pow 10 (-grid).toNat
  let low := interval.low * unit
  let high := interval.high * unit
  if interval.closed then low ≤ point && point ≤ high else low < point && point < high

/-- The least `point` with the value below `10 ^ point`. -/
def Interval.point (interval : Interval) : Int :=
  if interval.den ≤ interval.value then
    ((Nat.toDigits 10 (interval.value / interval.den)).length : Int)
  else
    let size := (Nat.toDigits 10 (interval.den / interval.value)).length
    if interval.den ≤ interval.value * Nat.pow 10 (size - 1) then 2 - (size : Int)
    else 1 - (size : Int)

def Interval.nearest? (interval : Interval) (tie : Tie) (grid : Int) : Option Nat :=
  let num := interval.value * Nat.pow 10 (-grid).toNat
  let den := interval.den * Nat.pow 10 grid.toNat
  let below := num / den
  let twice := 2 * (num % den)
  let takeUp :=
    den < twice || (twice == den && (tie == .up || below % 2 == 1))
  let belowHolds := 0 < below && interval.holds below grid
  let aboveHolds := interval.holds (below + 1) grid
  if belowHolds && aboveHolds then some (if takeUp then below + 1 else below)
  else if belowHolds then some below
  else if aboveHolds then some (below + 1)
  else none

def maxDigits : Nat := 17

def Digits.ofScaled (candidate : Nat) (grid : Int) : Digits :=
  let digits := Nat.toDigits 10 candidate
  { digits := (digits.reverse.dropWhile (· == '0')).reverse
    point := digits.length + grid }

def shortest (tie : Tie) (significand : Nat) (exponent : Int) : Digits :=
  let interval := Interval.ofFinite significand exponent
  let point := interval.point
  let found := (List.range maxDigits).findSome? fun count =>
    let grid := point - ((count + 1 : Nat) : Int)
    (interval.nearest? tie grid).map (Digits.ofScaled · grid)
  found.getD ⟨['0'], 1⟩

end LayeredConfig.Decimal
