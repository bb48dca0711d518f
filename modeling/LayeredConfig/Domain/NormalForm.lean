import LayeredConfig.Domain.CodeTable
import LayeredConfig.Domain.NormalFormTable

/-!
# The normal form of a text

One text can be written with different characters: a letter and its mark, or one character for
both, and marks that do not touch each other in any order.  The normal form takes characters apart,
orders the marks by their class and puts together what can be.
-/

set_option autoImplicit false

namespace LayeredConfig.Domain

/-! ## Tables -/

def classes : List (CodeRange × Nat) :=
  (words classTable).filterMap fun word =>
    match Text.split '=' word with
    | [range, number] => do return (← CodeRange.read? range, ← Decimal.natural? 10 number)
    | _ => none

/-- The class of a code point; zero for one that does not combine. -/
def combiningClass (n : Nat) : Nat :=
  ((classes.find? (·.1.has n)).map (·.2)).getD 0

structure Pair where
  first : Nat
  second : Nat
  whole : Nat

def Pair.read? (word : List Char) : Option Pair :=
  match Text.split '>' word with
  | [parts, whole] =>
      match Text.split '+' parts with
      | [first, second] => do return ⟨← code? first, ← code? second, ← code? whole⟩
      | _ => none
  | _ => none

def pairs : List Pair := (words pairTable).filterMap Pair.read?

/-! ## Syllables

A Korean syllable is a lead, a vowel and perhaps a tail.  The syllables are numbered through. -/

def syllableBase : Nat := 0xAC00

def leadBase : Nat := 0x1100

def vowelBase : Nat := 0x1161

/-- The code point before the first tail, which stands for no tail. -/
def tailBase : Nat := 0x11A7

def leadCount : Nat := 19

def vowelCount : Nat := 21

def tailCount : Nat := 28

def isSyllable (n : Nat) : Bool :=
  syllableBase ≤ n && n < syllableBase + leadCount * vowelCount * tailCount

def syllableParts (n : Nat) : List Nat :=
  let number := n - syllableBase
  let tail := number % tailCount
  [leadBase + number / (vowelCount * tailCount), vowelBase + number / tailCount % vowelCount] ++
    (if tail = 0 then [] else [tailBase + tail])

/-- The syllable of a lead and a vowel, or of a syllable without tail and a tail. -/
def syllable? (first second : Nat) : Option Nat :=
  if leadBase ≤ first ∧ first < leadBase + leadCount ∧
      vowelBase ≤ second ∧ second < vowelBase + vowelCount then
    some (syllableBase +
      ((first - leadBase) * vowelCount + (second - vowelBase)) * tailCount)
  else if isSyllable first ∧ (first - syllableBase) % tailCount = 0 ∧
      tailBase < second ∧ second < tailBase + tailCount then
    some (first + (second - tailBase))
  else none

/-! ## Taking apart, ordering and putting together -/

/-- The number of times that the first part of a pair can be a pair again. -/
def maxLayers : Nat := 4

def parts : Nat → Nat → List Nat
  | 0, n => [n]
  | layers + 1, n =>
      if isSyllable n then syllableParts n
      else
        match pairs.find? (·.whole == n) with
        | some pair => parts layers pair.first ++ [pair.second]
        | none => [n]

/-- Adds a code point behind others, which are newest first: a mark goes before the marks of a
greater class. -/
def insertMark (n : Nat) : List Nat → List Nat
  | [] => [n]
  | other :: others =>
      if combiningClass n ≠ 0 ∧ combiningClass n < combiningClass other then
        other :: insertMark n others
      else n :: other :: others

def orderMarks (codes : List Nat) : List Nat :=
  (codes.foldl (fun ordered n => insertMark n ordered) []).reverse

def whole? (first second : Nat) : Option Nat :=
  match syllable? first second with
  | some syllable => some syllable
  | none =>
      (pairs.find? fun pair => pair.first == first && pair.second == second).map (·.whole)

structure Composing where
  /-- What is finished, newest first. -/
  done : List Nat
  /-- The last code point that does not combine. -/
  starter : Option Nat
  /-- The marks behind it, newest first. -/
  marks : List Nat

namespace Composing

def all (state : Composing) : List Nat :=
  state.marks ++ (state.starter.toList ++ state.done)

/-- A mark lies between the starter and a code point of a class and keeps them apart. -/
def isBlocked (state : Composing) (number : Nat) : Bool :=
  state.marks.head?.any fun mark => number ≤ combiningClass mark

def push (state : Composing) (n : Nat) : Composing :=
  if combiningClass n = 0 then ⟨state.all, some n, []⟩
  else { state with marks := n :: state.marks }

def add (state : Composing) (n : Nat) : Composing :=
  match state.starter with
  | none => state.push n
  | some starter =>
      if state.isBlocked (combiningClass n) then state.push n
      else
        match whole? starter n with
        | some whole => { state with starter := some whole }
        | none => state.push n

end Composing

def compose (codes : List Nat) : List Nat :=
  (codes.foldl Composing.add ⟨[], none, []⟩).all.reverse

/-- The normal form of a folded text.  Text of ASCII is in its normal form. -/
def normalForm (text : List Char) : List Char :=
  if text.all isAscii then text
  else
    (compose (orderMarks ((text.map Char.toNat).flatMap (parts maxLayers)))).map Char.ofNat

end LayeredConfig.Domain
