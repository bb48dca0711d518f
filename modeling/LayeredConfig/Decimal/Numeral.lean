import LayeredConfig.Decimal.Binary64

/-!
# Decimal numerals

Numerals read from text: digit runs in a base, and decimal numbers with a fraction and an exponent.
-/

set_option autoImplicit false

namespace LayeredConfig.Decimal

def digitValue? (base : Nat) (c : Char) : Option Nat :=
  let value :=
    if '0' ≤ c ∧ c ≤ '9' then some (c.toNat - '0'.toNat)
    else if 'a' ≤ c ∧ c ≤ 'z' then some (c.toNat - 'a'.toNat + 10)
    else if 'A' ≤ c ∧ c ≤ 'Z' then some (c.toNat - 'A'.toNat + 10)
    else none
  value.filter (· < base)

def digitsFrom? (base : Nat) (start : Nat) : List Char → Option Nat
  | [] => some start
  | c :: rest => (digitValue? base c).bind fun digit => digitsFrom? base (start * base + digit) rest

def natural? (base : Nat) (text : List Char) : Option Nat :=
  if text.isEmpty then none else digitsFrom? base 0 text

def allDigits (text : List Char) : Bool := text.all Char.isDigit

def splitSign : List Char → Bool × List Char
  | '-' :: rest => (true, rest)
  | '+' :: rest => (false, rest)
  | text => (false, text)

/-- The exponent part at the end of a number: nothing, or a mark, a sign and digits. -/
def exponentPart? : List Char → Option Int
  | [] => some 0
  | mark :: rest =>
      if mark = 'e' ∨ mark = 'E' then
        let (negative, digits) := splitSign rest
        (natural? 10 digits).map fun n => if negative then -(n : Int) else (n : Int)
      else none

/-- A decimal number without sign: digits, an optional fraction, an optional exponent, and at least
one digit before the exponent. -/
def decimal? (negative : Bool) (text : List Char) : Option Binary64 :=
  let whole := text.takeWhile Char.isDigit
  let afterWhole := text.dropWhile Char.isDigit
  let (fraction, tail) :=
    match afterWhole with
    | '.' :: rest => (rest.takeWhile Char.isDigit, rest.dropWhile Char.isDigit)
    | _ => ([], afterWhole)
  let digits := whole ++ fraction
  match natural? 10 digits, exponentPart? tail with
  | some value, some exponent =>
      let significant := digits.dropWhile (· == '0')
      some (Binary64.ofDecimal negative value significant.length (exponent - fraction.length))
  | _, _ => none

/-- A number with an optional sign; the names of the infinities and of NaN are numbers, in any
case of letters. -/
def number? (text : List Char) : Option Binary64 :=
  let (negative, rest) := splitSign text
  let name := rest.map Char.toLower
  if name = "inf".toList ∨ name = "infinity".toList then some (.infinite negative)
  else if name = "nan".toList then some .nan
  else decimal? negative rest

def ofInt (n : Int) : List Char :=
  if n < 0 then '-' :: Nat.toDigits 10 n.natAbs else Nat.toDigits 10 n.natAbs

end LayeredConfig.Decimal
