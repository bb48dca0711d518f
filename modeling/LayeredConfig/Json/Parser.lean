import LayeredConfig.Decimal.Numeral
import LayeredConfig.Value

/-!
# JSON reading

A strict reader of JSON text.  Blanks around tokens are allowed, nothing may follow the value, and
arrays and objects may be nested up to a limit.  Of two entries with one key the later one stays.

A number without fraction and exponent is an integer when 64 bits can hold it.  Every other number
is computed from the first digits that fit in 64 bits and one multiplication or division by a
power of ten, each rounded, so it may differ from the nearest number in the last bit.
-/

set_option autoImplicit false

namespace LayeredConfig.Json

def isSpace (c : Char) : Bool :=
  c == ' ' || c == '\n' || c == '\t' || c == '\r'

def skipSpace (text : List Char) : List Char := text.dropWhile isSpace

def strip? : List Char → List Char → Option (List Char)
  | [], text => some text
  | _ :: _, [] => none
  | expected :: more, c :: rest => if c = expected then strip? more rest else none

/-! ## Strings -/

def shortEscape? (c : Char) : Option Char :=
  if c = '"' then some '"'
  else if c = '\\' then some '\\'
  else if c = '/' then some '/'
  else if c = 'b' then some '\x08'
  else if c = 'f' then some '\x0c'
  else if c = 'n' then some '\n'
  else if c = 'r' then some '\r'
  else if c = 't' then some '\t'
  else none

def unit? (a b c d : Char) : Option Nat := Decimal.natural? 16 [a, b, c, d]

def consChar (c : Char) (result : Option (List Char × List Char)) :
    Option (List Char × List Char) :=
  result.map fun (text, rest) => (c :: text, rest)

def pairedChar (high low : Nat) : Char :=
  Char.ofNat (0x10000 + (high - 0xD800) * 0x400 + (low - 0xDC00))

/-- The characters up to the closing quote, and the text after it. -/
def readString : List Char → Option (List Char × List Char)
  | [] => none
  | c :: rest =>
      if c = '"' then some ([], rest)
      else if c = '\\' then
        match rest with
        | [] => none
        | escaped :: rest =>
            if escaped = 'u' then
              match rest with
              | a :: b :: c :: d :: rest =>
                  match unit? a b c d with
                  | none => none
                  | some unit =>
                      if 0xD800 ≤ unit ∧ unit ≤ 0xDBFF then
                        match rest with
                        | '\\' :: 'u' :: e :: f :: g :: h :: rest =>
                            match unit? e f g h with
                            | none => none
                            | some low =>
                                if 0xDC00 ≤ low ∧ low ≤ 0xDFFF then
                                  consChar (pairedChar unit low) (readString rest)
                                else none
                        | _ => none
                      else if 0xDC00 ≤ unit ∧ unit ≤ 0xDFFF then none
                      else consChar (Char.ofNat unit) (readString rest)
              | _ => none
            else
              match shortEscape? escaped with
              | none => none
              | some c => consChar c (readString rest)
      else if c.toNat < 0x20 then none
      else consChar c (readString rest)

/-! ## Numbers -/

structure NumberText where
  negative : Bool
  whole : List Char
  fraction : Option (List Char)
  exponent : Option (Bool × List Char)
  deriving DecidableEq, Repr

def readDigits (text : List Char) : Option (List Char × List Char) :=
  let digits := text.takeWhile Char.isDigit
  if digits.isEmpty then none else some (digits, text.dropWhile Char.isDigit)

def readWhole (text : List Char) : Option (List Char × List Char) :=
  match readDigits text with
  | some ('0' :: _ :: _, _) => none
  | result => result

/-- The fraction at the start of a text, if there is one; `none` when its digits are missing. -/
def readFraction : List Char → Option (Option (List Char) × List Char)
  | '.' :: rest => (readDigits rest).map fun (digits, rest) => (some digits, rest)
  | text => some (none, text)

/-- The exponent at the start of a text, if there is one; `none` when its digits are missing. -/
def readExponent : List Char → Option (Option (Bool × List Char) × List Char)
  | [] => some (none, [])
  | mark :: rest =>
      if mark = 'e' ∨ mark = 'E' then
        let (negative, rest) := Decimal.splitSign rest
        (readDigits rest).map fun (digits, rest) => (some (negative, digits), rest)
      else some (none, mark :: rest)

def readNumber (text : List Char) : Option (NumberText × List Char) :=
  let (negative, text) :=
    match text with
    | '-' :: rest => (true, rest)
    | _ => (false, text)
  match readWhole text with
  | none => none
  | some (whole, rest) =>
      match readFraction rest with
      | none => none
      | some (fraction, rest) =>
          match readExponent rest with
          | none => none
          | some (exponent, rest) => some (⟨negative, whole, fraction, exponent⟩, rest)

def maxSignificand : Nat := Nat.pow 2 64 - 1

/-- Digits added to a significand as long as it fits, and the number of digits left out. -/
def accumulate (significand : Nat) : List Char → Nat × Nat
  | [] => (significand, 0)
  | digit :: rest =>
      let next := significand * 10 + (digit.toNat - '0'.toNat)
      if maxSignificand < next then (significand, rest.length + 1) else accumulate next rest

/-- The greatest power of ten that one operation scales by. -/
def maxScale : Nat := 308

/-- A number scaled by a power of ten; `none` when it is too large.  A smaller exponent is worked
off in steps, after a few of which the number is zero. -/
def scale : Nat → Binary64 → Int → Option Binary64
  | steps, x, exponent =>
      if exponent.natAbs ≤ maxScale then
        let power := Binary64.ofNat (Nat.pow 10 exponent.natAbs)
        if 0 ≤ exponent then
          let product := x.mulFinite power
          if product.isFinite then some product else none
        else some (x.divFinite power)
      else if x.isZero then some x
      else if 0 ≤ exponent then none
      else
        match steps with
        | 0 => some (Binary64.zero false)
        | steps + 1 =>
          scale steps (x.divFinite (Binary64.ofNat (Nat.pow 10 maxScale))) (exponent + maxScale)

/-- The steps that bring every significand to zero. -/
def scaleSteps : Nat := 4

def exponentLimit : Nat := Nat.pow 2 31

/-- The number that a written number with fraction, exponent or too many digits stands for. -/
def NumberText.float? (number : NumberText) : Option Binary64 :=
  let (significand, leftOut) := accumulate 0 number.whole
  let fraction := number.fraction.getD []
  let (significand, fractionLeftOut) := accumulate significand fraction
  let start : Int := leftOut - (fraction.length - fractionLeftOut : Nat)
  let (negative, digits) := number.exponent.getD (false, [])
  let exponent := (Decimal.digitsFrom? 10 0 digits).getD 0
  let magnitude :=
    if exponentLimit ≤ exponent then
      if significand ≠ 0 ∧ negative = false then none else some (Binary64.zero false)
    else
      scale scaleSteps (Binary64.ofNat significand)
        (start + if negative then -(exponent : Int) else (exponent : Int))
  magnitude.map fun x => if number.negative then x.neg else x

def NumberText.value? (number : NumberText) : Option Value :=
  match number.fraction, number.exponent with
  | none, none =>
      let n := (Decimal.digitsFrom? 10 0 number.whole).getD 0
      if number.negative then
        if n = 0 then some (.float (Binary64.zero true))
        else if n ≤ Nat.pow 2 63 then some (.integer (Int64.ofInt (-n)))
        else number.float?.map .float
      else if n < Nat.pow 2 63 then some (.integer (Int64.ofNat n))
      else number.float?.map .float
  | _, _ => number.float?.map .float

/-! ## Values -/

def maxDepth : Nat := 127

mutual

def readValue : Nat → Nat → List Char → Option (Value × List Char)
  | 0, _, _ => none
  | fuel + 1, depth, text =>
      match skipSpace text with
      | [] => none
      | c :: rest =>
          if c = '"' then
            (readString rest).map fun (s, rest) => (.text (String.ofList s), rest)
          else if c = '[' then
            match depth with
            | 0 => none
            | depth + 1 =>
                match skipSpace rest with
                | ']' :: rest => some (.list [], rest)
                | rest => (readItems fuel depth rest).map fun (items, rest) => (.list items, rest)
          else if c = '{' then
            match depth with
            | 0 => none
            | depth + 1 =>
                match skipSpace rest with
                | '}' :: rest => some (.map [], rest)
                | rest =>
                    (readEntries fuel depth rest).map fun (entries, rest) =>
                      (.map (orderEntries entries), rest)
          else if c = 'n' then (strip? "ull".toList rest).map fun rest => (.null, rest)
          else if c = 't' then (strip? "rue".toList rest).map fun rest => (.bool true, rest)
          else if c = 'f' then (strip? "alse".toList rest).map fun rest => (.bool false, rest)
          else
            match readNumber (c :: rest) with
            | none => none
            | some (number, rest) => number.value?.map fun value => (value, rest)

def readItems : Nat → Nat → List Char → Option (List Value × List Char)
  | 0, _, _ => none
  | fuel + 1, depth, text =>
      match readValue fuel depth text with
      | none => none
      | some (item, rest) =>
          match skipSpace rest with
          | ']' :: rest => some ([item], rest)
          | ',' :: rest =>
              (readItems fuel depth rest).map fun (items, rest) => (item :: items, rest)
          | _ => none

def readEntries : Nat → Nat → List Char → Option (List (String × Value) × List Char)
  | 0, _, _ => none
  | fuel + 1, depth, text =>
      match skipSpace text with
      | '"' :: rest =>
          match readString rest with
          | none => none
          | some (key, rest) =>
              match skipSpace rest with
              | ':' :: rest =>
                  match readValue fuel depth rest with
                  | none => none
                  | some (value, rest) =>
                      let entry := (String.ofList key, value)
                      match skipSpace rest with
                      | '}' :: rest => some ([entry], rest)
                      | ',' :: rest =>
                          (readEntries fuel depth rest).map fun (entries, rest) =>
                            (entry :: entries, rest)
                      | _ => none
              | _ => none
      | _ => none

end

/-- The value of a whole text.  Each step of the reader takes a character or descends from a value
to its first item, so twice the length of the text bounds its steps. -/
def parse? (text : List Char) : Option Value :=
  match readValue (2 * text.length + 2) maxDepth text with
  | none => none
  | some (value, rest) => if (skipSpace rest).isEmpty then some value else none

end LayeredConfig.Json
