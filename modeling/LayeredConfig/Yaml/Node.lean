import LayeredConfig.Decimal.Binary64

/-!
# Typed nodes

A YAML document with the types of its scalars decided and its aliases expanded.  Keys of mappings
are nodes too, and two keys of one mapping are never equal.
-/

set_option autoImplicit false

namespace LayeredConfig.Yaml

/-- A node with its type.  An integer is at least `-2 ^ 63` and less than `2 ^ 64`. -/
inductive Node where
  | null
  | bool (b : Bool)
  | integer (n : Int)
  | float (x : Binary64)
  | text (s : String)
  | sequence (items : List Node)
  | mapping (entries : List (Node × Node))
  | tagged (tag : List Char) (node : Node)
  deriving Inhabited

def bareTag : List Char → List Char
  | '!' :: c :: rest => c :: rest
  | tag => tag

namespace Node

mutual

/-- Equality of keys: floating point numbers are compared as numbers and apart from integers, and
mappings without regard to the order of their entries. -/
def sameKey : Node → Node → Bool
  | .null, .null => true
  | .bool a, .bool b => a == b
  | .integer a, .integer b => a == b
  | .float a, .float b => a.sameNumber b
  | .text a, .text b => a == b
  | .sequence as, .sequence bs => sameItems as bs
  | .mapping as, .mapping bs => as.length == bs.length && entriesWithin as bs
  | .tagged tag a, .tagged other b => bareTag tag == bareTag other && sameKey a b
  | _, _ => false

def sameItems : List Node → List Node → Bool
  | [], [] => true
  | a :: as, b :: bs => sameKey a b && sameItems as bs
  | _, _ => false

/-- Each entry of a mapping has an equal one in another. -/
def entriesWithin : List (Node × Node) → List (Node × Node) → Bool
  | [], _ => true
  | (key, value) :: entries, others =>
      (others.any fun other => sameKey key other.1 && sameKey value other.2) &&
        entriesWithin entries others

end

end Node

end LayeredConfig.Yaml
