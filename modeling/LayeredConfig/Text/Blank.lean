/-!
# Blank characters

Blank means the Unicode property `White_Space`.  A document of blanks only is empty, and the
blanks around a name are not part of it.
-/

set_option autoImplicit false

namespace LayeredConfig.Text

/-- The ranges of the property `White_Space`, ends included, in code point order. -/
def blankRanges : List (Nat × Nat) :=
  [(0x09, 0x0D), (0x20, 0x20), (0x85, 0x85), (0xA0, 0xA0), (0x1680, 0x1680),
   (0x2000, 0x200A), (0x2028, 0x2029), (0x202F, 0x202F), (0x205F, 0x205F), (0x3000, 0x3000)]

def isBlank (c : Char) : Bool :=
  blankRanges.any fun range => range.1 ≤ c.toNat && c.toNat ≤ range.2

def trimStart (text : List Char) : List Char :=
  text.dropWhile isBlank

def trimEnd (text : List Char) : List Char :=
  (text.reverse.dropWhile isBlank).reverse

def trim (text : List Char) : List Char :=
  trimEnd (trimStart text)

def trimmed (text : String) : String :=
  String.ofList (trim text.toList)

example : (blankRanges.map fun range => range.2 + 1 - range.1).sum = 25 := by decide

end LayeredConfig.Text
