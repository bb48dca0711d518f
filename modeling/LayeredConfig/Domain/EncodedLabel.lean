import LayeredConfig.Domain.CodeTable

/-!
# Encoded labels

A label with characters outside of ASCII is written in ASCII: the characters of ASCII as they are,
a hyphen behind them if there are any, and then numbers that say which others stand where.  The
numbers count the steps through all places of all code points in turn; a number is written with
digits whose weights adapt to the numbers before it.
-/

set_option autoImplicit false

namespace LayeredConfig.Domain

/-! ## Numbers -/

def labelDigit? (c : Char) : Option Nat :=
  if 'a' ≤ c ∧ c ≤ 'z' then some (c.toNat - 'a'.toNat)
  else if 'A' ≤ c ∧ c ≤ 'Z' then some (c.toNat - 'A'.toNat)
  else if '0' ≤ c ∧ c ≤ '9' then some (c.toNat - '0'.toNat + 26)
  else none

def labelDigit (value : Nat) : Char :=
  if value < 26 then Char.ofNat ('a'.toNat + value) else Char.ofNat ('0'.toNat + (value - 26))

/-- The digit below which a number ends, at a position. -/
def labelThreshold (position bias : Nat) : Nat :=
  if position ≤ bias then 1 else if bias + 26 ≤ position then 26 else position - bias

def digitCount : Nat := 36

def maxNumber : Nat := Nat.pow 2 32 - 1

def readLabelNumber (bias : Nat) : Nat → Nat → Nat → List Char → Option (Nat × List Char)
  | _, _, _, [] => none
  | position, weight, sum, c :: rest =>
      match labelDigit? c with
      | none => none
      | some digit =>
          let sum := sum + digit * weight
          let threshold := labelThreshold position bias
          if maxNumber < sum then none
          else if digit < threshold then some (sum, rest)
          else
            let weight := weight * (digitCount - threshold)
            if maxNumber < weight then none
            else readLabelNumber bias (position + digitCount) weight sum rest

def printLabelNumber (bias : Nat) : Nat → Nat → Nat → List Char
  | 0, _, _ => []
  | fuel + 1, position, number =>
      let threshold := labelThreshold position bias
      if number < threshold then [labelDigit number]
      else
        let base := digitCount - threshold
        labelDigit (threshold + (number - threshold) % base) ::
          printLabelNumber bias fuel (position + digitCount) ((number - threshold) / base)

def dampen : Nat → Nat → Nat → Nat × Nat
  | 0, step, turns => (step, turns)
  | fuel + 1, step, turns =>
      if 455 < step then dampen fuel (step / 35) (turns + digitCount) else (step, turns)

def firstBias : Nat := 72

def nextBias (step count : Nat) (first : Bool) : Nat :=
  let step := if first then step / 700 else step / 2
  let step := step + step / count
  let (step, turns) := dampen (step + 1) step 0
  turns + digitCount * step / (step + 38)

/-- The code point with which counting starts. -/
def firstCode : Nat := 0x80

/-! ## Reading -/

def decodeNumbers : Nat → Bool → Nat → Nat → Nat → List Nat → List Char → Option (List Nat)
  | _, _, _, _, _, codes, [] => some codes
  | 0, _, _, _, _, _, _ :: _ => none
  | fuel + 1, first, code, place, bias, codes, text =>
      match readLabelNumber bias digitCount 1 place text with
      | none => none
      | some (sum, rest) =>
          let count := codes.length + 1
          let code := code + sum / count
          let here := sum % count
          if code.isValidChar then
            decodeNumbers fuel false code (here + 1) (nextBias (sum - place) count first)
              (codes.insertIdx here code) rest
          else none

/-- The text of an encoded label without its prefix.  A hyphen in front of everything stands for no
characters and so is not left out. -/
def decodeLabel? (label : List Char) : Option (List Char) :=
  let tail := (label.reverse.takeWhile (· ≠ '-')).reverse
  let shown := label.take (label.length - tail.length - 1)
  if !label.all isAscii || (shown.isEmpty && label.contains '-') then none
  else
    (decodeNumbers (tail.length + 1) true firstCode 0 firstBias (shown.map Char.toNat) tail).map
      (·.map Char.ofNat)

/-! ## Writing -/

structure Encoding where
  digits : List Char
  /-- The steps since the last number. -/
  steps : Nat
  bias : Nat
  /-- The characters that are dealt with. -/
  count : Nat

/-- Steps over a character, or names it if it is the one with a code point.  `shown` is the number
of characters that are written as they are. -/
def Encoding.pass (shown code : Nat) (state : Encoding) (c : Char) : Encoding :=
  if c.toNat < code then { state with steps := state.steps + 1 }
  else if c.toNat = code then
    ⟨state.digits ++ printLabelNumber state.bias (state.steps + 1) digitCount state.steps, 0,
      nextBias state.steps (state.count + 1) (state.count == shown), state.count + 1⟩
  else state

/-- Names the characters of a label with some code points, which ascend from `next` on. -/
def Encoding.run (label : List Char) (shown : Nat) : Nat → List Nat → Encoding → Encoding
  | _, [], state => state
  | next, code :: codes, state =>
      let state := { state with steps := state.steps + (code - next) * (state.count + 1) }
      let state := label.foldl (Encoding.pass shown code) state
      Encoding.run label shown (code + 1) codes { state with steps := state.steps + 1 }

def insertCode (n : Nat) : List Nat → List Nat
  | [] => [n]
  | m :: rest =>
      if n < m then n :: m :: rest else if n = m then m :: rest else m :: insertCode n rest

def hiddenCodes (label : List Char) : List Nat :=
  ((label.filter fun c => !isAscii c).map Char.toNat).foldr insertCode []

def encodeLabel (label : List Char) : List Char :=
  let shown := label.filter isAscii
  let state :=
    Encoding.run label shown.length firstCode (hiddenCodes label) ⟨[], 0, firstBias, shown.length⟩
  shown ++ ((if shown.isEmpty then [] else ['-']) ++ state.digits)

end LayeredConfig.Domain
