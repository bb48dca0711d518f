import LayeredConfig.Decimal.Binary64
import LayeredConfig.Mapping

/-!
# Configuration values

A value is a scalar, a list or a map with string keys.  A document is a mapping from keys to
values.  The maps inside a value are entry lists; `Canonical` says that each of them is in key
order, and every function of the library that builds a value builds a canonical one.
-/

set_option autoImplicit false

namespace LayeredConfig

inductive Value where
  | null
  | bool (b : Bool)
  | integer (n : Int64)
  | float (x : Binary64)
  | text (s : String)
  | list (items : List Value)
  | map (entries : List (String × Value))
  deriving Inhabited

abbrev Document : Type := Mapping Value

namespace Value

mutual

def same : Value → Value → Bool
  | .null, .null => true
  | .bool a, .bool b => a == b
  | .integer a, .integer b => a == b
  | .float a, .float b => a == b
  | .text a, .text b => a == b
  | .list a, .list b => sameItems a b
  | .map a, .map b => sameEntries a b
  | _, _ => false

def sameItems : List Value → List Value → Bool
  | [], [] => true
  | a :: as, b :: bs => same a b && sameItems as bs
  | _, _ => false

def sameEntries : List (String × Value) → List (String × Value) → Bool
  | [], [] => true
  | (key, a) :: as, (other, b) :: bs => key == other && same a b && sameEntries as bs
  | _, _ => false

end

mutual

theorem same_iff (a b : Value) : same a b = true ↔ a = b := by
  match a, b with
  | .list as, .list bs => simp [same, sameItems_iff as bs]
  | .map as, .map bs => simp [same, sameEntries_iff as bs]
  | .null, b => cases b <;> simp [same]
  | .bool _, b => cases b <;> simp [same]
  | .integer _, b => cases b <;> simp [same]
  | .float _, b => cases b <;> simp [same]
  | .text _, b => cases b <;> simp [same]
  | .list _, .null | .list _, .bool _ | .list _, .integer _ | .list _, .float _
  | .list _, .text _ | .list _, .map _ => simp [same]
  | .map _, .null | .map _, .bool _ | .map _, .integer _ | .map _, .float _
  | .map _, .text _ | .map _, .list _ => simp [same]

theorem sameItems_iff (as bs : List Value) : sameItems as bs = true ↔ as = bs := by
  match as, bs with
  | [], bs => cases bs <;> simp [sameItems]
  | a :: as, [] => simp [sameItems]
  | a :: as, b :: bs => simp [sameItems, same_iff a b, sameItems_iff as bs]

theorem sameEntries_iff (as bs : List (String × Value)) :
    sameEntries as bs = true ↔ as = bs := by
  match as, bs with
  | [], bs => cases bs <;> simp [sameEntries]
  | a :: as, [] => simp [sameEntries]
  | (key, a) :: as, (other, b) :: bs =>
      simp [sameEntries, same_iff a b, sameEntries_iff as bs, and_assoc]

end

instance : DecidableEq Value := fun a b =>
  decidable_of_iff (same a b = true) (same_iff a b)

mutual

def Canonical : Value → Prop
  | .list items => CanonicalItems items
  | .map entries => Ordered entries ∧ CanonicalEntries entries
  | _ => True

def CanonicalItems : List Value → Prop
  | [] => True
  | item :: items => Canonical item ∧ CanonicalItems items

def CanonicalEntries : List (String × Value) → Prop
  | [] => True
  | (_, value) :: entries => Canonical value ∧ CanonicalEntries entries

end

def text? : Value → Option String
  | .text s => some s
  | _ => none

def document? : Value → Option Document
  | .map entries => some (Mapping.ofList entries)
  | _ => none

def boolText (b : Bool) : String := if b then "true" else "false"

/-- The value that readers are given: a boolean is handed out as its text, all else as it is. -/
def normalized : Value → Value
  | .bool b => .text (boolText b)
  | value => value

end Value

end LayeredConfig
