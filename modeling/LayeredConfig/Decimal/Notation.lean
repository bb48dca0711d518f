import LayeredConfig.Decimal.Shortest

/-!
# Decimal notations

Two notations of a number from its shortest digits.  The plain notation is positional for every
number and has no fraction part for a whole one.  The scientific notation is positional between
`10 ^ -5` and `10 ^ 16` and always shows that the number is not an integer.
-/

set_option autoImplicit false

namespace LayeredConfig.Decimal

def signed (negative : Bool) (text : List Char) : List Char :=
  if negative then '-' :: text else text

def Digits.positional (number : Digits) (wholeEnding : List Char) : List Char :=
  let count : Int := number.digits.length
  if number.point ≤ 0 then
    '0' :: '.' :: (List.replicate (-number.point).toNat '0' ++ number.digits)
  else if count ≤ number.point then
    number.digits ++ List.replicate (number.point - count).toNat '0' ++ wholeEnding
  else
    number.digits.take number.point.toNat ++ '.' :: number.digits.drop number.point.toNat

/-- The plain notation: positional, ties between digits upwards, names for what is not finite. -/
def plain : Binary64 → List Char
  | .nan => "NaN".toList
  | .infinite negative => signed negative "inf".toList
  | .finite negative significand exponent =>
      signed negative
        (if significand = 0 then ['0']
         else (shortest .up significand exponent).positional [])

def positionalExponents : Int × Int := (-5, 15)

def Digits.scientific (number : Digits) : List Char :=
  let exponent := number.point - 1
  let fraction :=
    match number.digits.drop 1 with
    | [] => []
    | digits => '.' :: digits
  let sign := if exponent < 0 then '-' else '+'
  number.digits.take 1 ++ fraction ++ 'e' :: sign :: Nat.toDigits 10 exponent.natAbs

/-- The scientific notation of a finite number, ties between digits to the even one; `none` for a
number that is not finite. -/
def scientific? : Binary64 → Option (List Char)
  | .nan => none
  | .infinite _ => none
  | .finite negative significand exponent =>
      if significand = 0 then some (signed negative "0.0".toList)
      else
        let number := shortest .even significand exponent
        let decimalExponent := number.point - 1
        some (signed negative
          (if positionalExponents.1 ≤ decimalExponent ∧ decimalExponent ≤ positionalExponents.2
           then number.positional ".0".toList
           else number.scientific))

end LayeredConfig.Decimal
