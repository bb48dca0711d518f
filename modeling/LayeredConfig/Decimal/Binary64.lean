/-!
# Binary64 numbers

A finite number is an integer significand times a power of two, kept in the one form in which the
significand has 53 bits or the exponent is the least one.  Every operation computes an exact
quotient of natural numbers and rounds it once, to the nearest number and in a tie to the even
significand.
-/

set_option autoImplicit false

namespace LayeredConfig

/-- A binary64 number.  NaN is one value, without sign or payload. -/
inductive Binary64 where
  | nan
  | infinite (negative : Bool)
  | finite (negative : Bool) (significand : Nat) (exponent : Int)
  deriving DecidableEq, Repr

namespace Binary64

/-- The bits of a full significand. -/
def precision : Nat := 53

def minExponent : Int := -1074

def maxExponent : Int := 971

def zero (negative : Bool) : Binary64 := .finite negative 0 minExponent

/-- The quotient of two naturals, to the nearest integer and in a tie to the even one. -/
def roundedQuotient (num den : Nat) : Nat :=
  let quotient := num / den
  let twice := 2 * (num % den)
  if den < twice || (twice == den && quotient % 2 == 1) then quotient + 1 else quotient

def scaledQuotient (num den : Nat) (exponent : Int) : Nat :=
  roundedQuotient (num * Nat.pow 2 (-exponent).toNat) (den * Nat.pow 2 exponent.toNat)

/-- The exponent at which `num / den` has a full significand, or the least exponent. -/
def exponentOf (num den : Nat) : Int :=
  let estimate : Int := (num.log2 : Int) - (den.log2 : Int) - precision
  let floor := num * Nat.pow 2 (-estimate).toNat / (den * Nat.pow 2 estimate.toNat)
  max minExponent (if floor < Nat.pow 2 precision then estimate else estimate + 1)

def ofRatio (negative : Bool) (num den : Nat) : Binary64 :=
  if num = 0 then zero negative
  else
    let exponent := exponentOf num den
    let significand := scaledQuotient num den exponent
    let (significand, exponent) :=
      if significand = Nat.pow 2 precision then (Nat.pow 2 (precision - 1), exponent + 1)
      else (significand, exponent)
    if maxExponent < exponent then .infinite negative
    else .finite negative significand exponent

def ofNat (n : Nat) : Binary64 := ofRatio false n 1

/-- The magnitude of the decimal exponent past which no digit string of the given length can be
finite and nonzero. -/
def decimalReach : Int := 400

/-- The number nearest to `digits * 10 ^ exponent`, where `count` is the number of digits. -/
def ofDecimal (negative : Bool) (digits count : Nat) (exponent : Int) : Binary64 :=
  if digits = 0 then zero negative
  else if decimalReach < exponent + count then .infinite negative
  else if exponent + count < -decimalReach then zero negative
  else ofRatio negative (digits * Nat.pow 10 exponent.toNat) (Nat.pow 10 (-exponent).toNat)

def neg : Binary64 → Binary64
  | .nan => .nan
  | .infinite negative => .infinite !negative
  | .finite negative significand exponent => .finite (!negative) significand exponent

def isFinite : Binary64 → Bool
  | .finite .. => true
  | _ => false

def isZero : Binary64 → Bool
  | .finite _ significand _ => significand == 0
  | _ => false

def mulFinite (a b : Binary64) : Binary64 :=
  match a, b with
  | .finite aNegative a aExponent, .finite bNegative b bExponent =>
      let exponent := aExponent + bExponent
      ofRatio (aNegative ^^ bNegative) (a * b * Nat.pow 2 exponent.toNat)
        (Nat.pow 2 (-exponent).toNat)
  | _, _ => .nan

def divFinite (a b : Binary64) : Binary64 :=
  match a, b with
  | .finite aNegative a aExponent, .finite bNegative b bExponent =>
      let exponent := aExponent - bExponent
      ofRatio (aNegative ^^ bNegative) (a * Nat.pow 2 exponent.toNat)
        (b * Nat.pow 2 (-exponent).toNat)
  | _, _ => .nan

/-- Equality as numbers: zeros are equal whatever their sign, and NaN is taken to be itself. -/
def sameNumber (a b : Binary64) : Bool :=
  a == b || (a.isZero && b.isZero)

end Binary64

end LayeredConfig
