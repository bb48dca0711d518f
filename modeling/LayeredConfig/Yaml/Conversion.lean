import LayeredConfig.Json.Printer
import LayeredConfig.Yaml.Node

/-!
# From nodes to values

Tags are dropped, and the keys of a mapping become text.  When the texts of two keys agree, the
later entry stays.
-/

set_option autoImplicit false

namespace LayeredConfig.Yaml.Node

/-- The value of an integer; one above 63 bits becomes a floating point number. -/
def integerValue (n : Int) : Value :=
  if n < Int.pow 2 63 then .integer (Int64.ofInt n) else .float (Binary64.ofNat n.toNat)

mutual

def toValue : Node → Value
  | .null => .null
  | .bool b => .bool b
  | .integer n => integerValue n
  | .float x => .float x
  | .text s => .text s
  | .sequence items => .list (toValues items)
  | .mapping entries => .map (orderEntries (toEntries entries))
  | .tagged _ node => toValue node

def toValues : List Node → List Value
  | [] => []
  | item :: items => toValue item :: toValues items

/-- The entries of a mapping in document order, each key as the flat text of its value. -/
def toEntries : List (Node × Node) → List (String × Value)
  | [] => []
  | (key, value) :: entries => ((toValue key).envText, toValue value) :: toEntries entries

end

end LayeredConfig.Yaml.Node
