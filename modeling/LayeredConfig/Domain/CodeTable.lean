import LayeredConfig.Decimal.Numeral
import LayeredConfig.Text.Separated

/-!
# Tables of characters

What a table says about characters is written as words with blanks between them.  A character is
its code point in hexadecimal, and `a-b` are the code points from `a` to `b`.  A table may say
anything about code points that are never looked up in it, so neighbouring ranges are written as
one where only such code points lie between them.
-/

set_option autoImplicit false

namespace LayeredConfig.Domain

def words (table : String) : List (List Char) :=
  (Text.split ' ' (table.toList.map fun c => if c = '\n' then ' ' else c)).filter (!·.isEmpty)

def code? (word : List Char) : Option Nat := Decimal.natural? 16 word

structure CodeRange where
  first : Nat
  last : Nat
  deriving DecidableEq, Repr

namespace CodeRange

def read? (word : List Char) : Option CodeRange :=
  match Text.split '-' word with
  | [only] => (code? only).map fun n => ⟨n, n⟩
  | [first, last] => do return ⟨← code? first, ← code? last⟩
  | _ => none

/-- Membership of a code point. -/
def has (range : CodeRange) (n : Nat) : Bool := range.first ≤ n && n ≤ range.last

end CodeRange

structure CodeSet where
  ranges : List CodeRange

namespace CodeSet

def read (table : String) : CodeSet := ⟨(words table).filterMap CodeRange.read?⟩

def has (set : CodeSet) (c : Char) : Bool := set.ranges.any (·.has c.toNat)

end CodeSet

def isAscii (c : Char) : Bool := c.toNat < 0x80

end LayeredConfig.Domain
