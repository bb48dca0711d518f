import LayeredConfig.DocumentText
import LayeredConfig.Proofs.Json.RoundTrip
import LayeredConfig.Proofs.Text.Blank
import LayeredConfig.Proofs.Yaml.Range
import Mathlib.Data.List.TakeWhile

/-!
# What a document converts to

A node converts to a value part by part.  Items stay in their places and tags are dropped; an
integer below `2 ^ 63` stays as it is.  The keys of a mapping become texts, and under each text the
map holds what the last entry with this text converts to; so nothing is lost but entries that a
later one shadows.  The document of a text is the map at its root.
-/

set_option autoImplicit false

namespace LayeredConfig

/-! ## Rows of entries -/

section Rows

variable {α : Type}

/-- A table in key order with the keys of a row, which has for each key the last entry of the
row. -/
structure LastWins (row table : List (String × α)) : Prop where
  ordered : Ordered table
  keys : ∀ key, key ∈ table.map Prod.fst ↔ key ∈ row.map Prod.fst
  last : ∀ before key value after, row = before ++ (key, value) :: after →
    key ∉ after.map Prod.fst → lookup key table = some value

theorem lookup_eq_none_iff {key : String} {entries : List (String × α)} :
    lookup key entries = none ↔ key ∉ entries.map Prod.fst := by
  rw [← Mapping.lookup_isSome_iff, Bool.not_eq_true, Option.isSome_eq_false_iff,
    Option.isNone_iff_eq_none]

theorem exists_last_entry {key : String} {row : List (String × α)}
    (member : key ∈ row.map Prod.fst) :
    ∃ before value after, row = before ++ (key, value) :: after ∧ key ∉ after.map Prod.fst := by
  induction row with
  | nil => cases member
  | cons entry row ih =>
      obtain ⟨other, value⟩ := entry
      by_cases later : key ∈ row.map Prod.fst
      · obtain ⟨before, last, after, split, absent⟩ := ih later
        exact ⟨(other, value) :: before, last, after, by rw [split, List.cons_append], absent⟩
      · rcases List.mem_cons.mp member with same | behind
        · obtain rfl : key = other := same
          exact ⟨[], value, row, rfl, later⟩
        · exact absurd behind later

theorem lookup_orderEntries (key : String) (row : List (String × α)) :
    lookup key (orderEntries row) = lookup key row.reverse :=
  Mapping.get?_ofList row key

theorem lastWins_orderEntries (row : List (String × α)) : LastWins row (orderEntries row) := by
  refine ⟨ordered_orderEntries row, ?_, ?_⟩
  · intro key
    rw [← Mapping.lookup_isSome_iff, lookup_orderEntries, Mapping.lookup_isSome_iff,
      List.map_reverse, List.mem_reverse]
  · intro before key value after split absent
    have passed : lookup key after.reverse = none := by
      rw [lookup_eq_none_iff, List.map_reverse, List.mem_reverse]
      exact absent
    rw [lookup_orderEntries, split, List.reverse_append, List.reverse_cons, List.append_assoc,
      Mapping.lookup_append, passed, Option.none_or]
    exact if_pos rfl

theorem LastWins.unique {row table other : List (String × α)} (one : LastWins row table)
    (two : LastWins row other) : other = table := by
  apply eq_of_lookup_eq two.ordered one.ordered
  intro key
  by_cases member : key ∈ row.map Prod.fst
  · obtain ⟨before, value, after, split, absent⟩ := exists_last_entry member
    rw [one.last before key value after split absent, two.last before key value after split absent]
  · have absent : lookup key table = none := lookup_eq_none_iff.mpr (mt (one.keys key).mp member)
    have absentToo : lookup key other = none := lookup_eq_none_iff.mpr (mt (two.keys key).mp member)
    rw [absent, absentToo]

end Rows

/-- A value that has no parts. -/
def Value.IsScalar : Value → Prop
  | .list _ => False
  | .map _ => False
  | _ => True

namespace Yaml

/-! ## The rules of conversion -/

mutual

/-- What a node converts to. -/
inductive Converts : Node → Value → Prop where
  | null : Converts .null .null
  | bool (b : Bool) : Converts (.bool b) (.bool b)
  | integer (n : Int64) : Converts (.integer n.toInt) (.integer n)
  | unsigned {n : Int} (above : Int.pow 2 63 ≤ n) :
      Converts (.integer n) (.float (Binary64.ofNat n.toNat))
  | float (x : Binary64) : Converts (.float x) (.float x)
  | text (s : String) : Converts (.text s) (.text s)
  | sequence {items : List Node} {values : List Value} (each : ConvertsItems items values) :
      Converts (.sequence items) (.list values)
  | mapping {entries : List (Node × Node)} {row table : List (String × Value)}
      (each : ConvertsEntries entries row) (last : LastWins row table) :
      Converts (.mapping entries) (.map table)
  | tagged (tag : List Char) {node : Node} {value : Value} (bare : Converts node value) :
      Converts (.tagged tag node) value

/-- The text of a key. -/
inductive KeyText : Node → String → Prop where
  | verbatim (s : String) : KeyText (.text s) s
  | scalar {key : Node} {value : Value} (other : ∀ s, key ≠ .text s) (converts : Converts key value)
      (flat : value.IsScalar) : KeyText key value.envText
  | compact {key : Node} {value : Value} (converts : Converts key value)
      (nested : ¬ value.IsScalar) : KeyText key (String.ofList (Json.print value))

inductive ConvertsItems : List Node → List Value → Prop where
  | nil : ConvertsItems [] []
  | cons {item : Node} {value : Value} {items : List Node} {values : List Value}
      (first : Converts item value) (rest : ConvertsItems items values) :
      ConvertsItems (item :: items) (value :: values)

/-- The entries of a mapping one by one, in the order of the document. -/
inductive ConvertsEntries : List (Node × Node) → List (String × Value) → Prop where
  | nil : ConvertsEntries [] []
  | cons {key node : Node} {text : String} {value : Value} {entries : List (Node × Node)}
      {row : List (String × Value)} (named : KeyText key text) (first : Converts node value)
      (rest : ConvertsEntries entries row) :
      ConvertsEntries ((key, node) :: entries) ((text, value) :: row)

end

/-! ## Integers -/

theorem converts_integer {n : Int} (fits : fits64 n = true) :
    Converts (.integer n) (Node.integerValue n) := by
  have bounds : -Int.pow 2 63 ≤ n ∧ n < Int.pow 2 64 := by
    rw [fits64, Bool.and_eq_true] at fits
    exact ⟨of_decide_eq_true fits.1, of_decide_eq_true fits.2⟩
  by_cases small : n < Int.pow 2 63
  · have kept : (Int64.ofInt n).toInt = n := Int64.toInt_ofInt_of_le bounds.1 small
    have converts := Converts.integer (Int64.ofInt n)
    rw [kept] at converts
    rw [Node.integerValue, if_pos small]
    exact converts
  · rw [Node.integerValue, if_neg small]
    exact .unsigned (Int.not_lt.mp small)

theorem integerValue_toInt (n : Int64) : Node.integerValue n.toInt = .integer n := by
  have small : n.toInt < Int.pow 2 63 := Int64.toInt_lt n
  rw [Node.integerValue, if_pos small, Int64.ofInt_toInt]

theorem integerValue_of_le {n : Int} (above : Int.pow 2 63 ≤ n) :
    Node.integerValue n = .float (Binary64.ofNat n.toNat) := by
  have large : ¬ n < Int.pow 2 63 := Int.not_lt.mpr above
  rw [Node.integerValue, if_neg large]

/-! ## Keys -/

theorem envText_of_nested {value : Value} (nested : ¬ value.IsScalar) :
    value.envText = String.ofList (Json.print value) := by
  cases value with
  | list items => rfl
  | map entries => rfl
  | _ => exact absurd trivial nested

theorem keyText_of_converts {key : Node} {value : Value} (converts : Converts key value) :
    KeyText key value.envText := by
  by_cases text : ∃ s, key = .text s
  · obtain ⟨s, rfl⟩ := text
    cases converts
    exact .verbatim s
  · by_cases flat : value.IsScalar
    · exact .scalar (not_exists.mp text) converts flat
    · rw [envText_of_nested flat]
      exact .compact converts flat

/-! ## The conversion -/

mutual

/-- A node whose integers fit converts by the rules to its value. -/
theorem converts_toValue {node : Node} (fits : node.Fits) : Converts node node.toValue := by
  match node with
  | .null => exact .null
  | .bool b => exact .bool b
  | .integer n => exact converts_integer fits
  | .float x => exact .float x
  | .text s => exact .text s
  | .sequence items => exact .sequence (convertsItems_toValues fits)
  | .mapping entries =>
      exact .mapping (convertsEntries_toEntries fits) (lastWins_orderEntries _)
  | .tagged tag node => exact .tagged tag (converts_toValue fits)

theorem convertsItems_toValues {items : List Node} (fits : Node.FitsItems items) :
    ConvertsItems items (Node.toValues items) := by
  match items with
  | [] => exact .nil
  | item :: items => exact .cons (converts_toValue fits.1) (convertsItems_toValues fits.2)

theorem convertsEntries_toEntries {entries : List (Node × Node)} (fits : Node.FitsEntries entries) :
    ConvertsEntries entries (Node.toEntries entries) := by
  match entries with
  | [] => exact .nil
  | (key, value) :: entries =>
      have named := keyText_of_converts (converts_toValue fits.1)
      exact .cons named (converts_toValue fits.2.1) (convertsEntries_toEntries fits.2.2)

end

mutual

/-- The rules leave no choice. -/
theorem Converts.eq_toValue {node : Node} {value : Value} (converts : Converts node value) :
    value = node.toValue := by
  match converts with
  | .null => rfl
  | .bool b => rfl
  | .integer n => exact (integerValue_toInt n).symm
  | .unsigned above => exact (integerValue_of_le above).symm
  | .float x => rfl
  | .text s => rfl
  | .sequence each => rw [each.eq_toValues, Node.toValue]
  | .mapping each last =>
      obtain rfl := each.eq_toEntries
      rw [Node.toValue, last.unique (lastWins_orderEntries _)]
  | .tagged tag bare => rw [bare.eq_toValue, Node.toValue]

theorem KeyText.eq_envText {key : Node} {text : String} (named : KeyText key text) :
    text = key.toValue.envText := by
  match named with
  | .verbatim s => rfl
  | .scalar other converts flat => rw [converts.eq_toValue]
  | .compact converts nested => rw [← converts.eq_toValue, envText_of_nested nested]

theorem ConvertsItems.eq_toValues {items : List Node} {values : List Value}
    (each : ConvertsItems items values) : values = Node.toValues items := by
  match each with
  | .nil => rfl
  | .cons first rest => rw [first.eq_toValue, rest.eq_toValues, Node.toValues]

theorem ConvertsEntries.eq_toEntries {entries : List (Node × Node)} {row : List (String × Value)}
    (each : ConvertsEntries entries row) : row = Node.toEntries entries := by
  match each with
  | .nil => rfl
  | .cons named first rest =>
      rw [named.eq_envText, first.eq_toValue, rest.eq_toEntries, Node.toEntries]

end

/-! ## Roots -/

namespace Node

/-- A node without the tags in front of it. -/
def bare : Node → Node
  | .tagged _ node => node.bare
  | node => node

theorem toValue_bare (node : Node) : node.bare.toValue = node.toValue := by
  match node with
  | .tagged _ node => exact toValue_bare node
  | .null | .bool _ | .integer _ | .float _ | .text _ | .sequence _ | .mapping _ => rfl

theorem bare_ne_tagged (node : Node) (tag : List Char) (inner : Node) :
    node.bare ≠ .tagged tag inner := by
  match node with
  | .tagged _ node => exact bare_ne_tagged node tag inner
  | .null | .bool _ | .integer _ | .float _ | .text _ | .sequence _ | .mapping _ => exact nofun

theorem bare_of_toValue {node : Node} {table : List (String × Value)}
    (value : node.toValue = .map table) : ∃ entries, node.bare = .mapping entries := by
  rw [← toValue_bare] at value
  cases root : node.bare with
  | mapping entries => exact ⟨entries, rfl⟩
  | tagged tag inner => exact absurd root (bare_ne_tagged node tag inner)
  | integer n =>
      rw [root, toValue, integerValue] at value
      split at value <;> cases value
  | _ =>
      rw [root] at value
      cases value

end Node

end Yaml

/-! ## Documents -/

open Yaml

section Documents

variable {location : String} {node : Node}

theorem parseDocument_of_blank {text : List Char} (blank : ∀ c ∈ text, Text.isBlank c = true) :
    parseDocument location text = .ok ∅ := by
  rw [parseDocument, if_pos (List.isEmpty_iff.mpr (Text.trim_eq_nil_iff.mpr blank))]

section

variable {text : List Char} (visible : ¬ ∀ c ∈ text, Text.isBlank c = true)

include visible

theorem parseDocument_of_fault {fault : Yaml.Fault} (refused : Yaml.parse text = .error fault) :
    parseDocument location text = .error (.parse location (.yaml fault)) := by
  have kept : ¬ (Text.trim text).isEmpty = true := by
    rw [List.isEmpty_iff, Text.trim_eq_nil_iff]
    exact visible
  rw [parseDocument, if_neg kept, refused]

theorem parseDocument_of_node (parsed : Yaml.parse text = .ok node) :
    parseDocument location text = rootDocument location node.toValue := by
  have kept : ¬ (Text.trim text).isEmpty = true := by
    rw [List.isEmpty_iff, Text.trim_eq_nil_iff]
    exact visible
  rw [parseDocument, if_neg kept, parsed]

end

theorem rootDocument_of_mapping {entries : List (Node × Node)}
    (root : node.bare = .mapping entries) :
    ∃ document, rootDocument location node.toValue = .ok document ∧
      node.toValue = .map document.entries := by
  have value : node.toValue = .map (orderEntries (Node.toEntries entries)) := by
    rw [← Node.toValue_bare, root, Node.toValue]
  refine ⟨⟨_, ordered_orderEntries (Node.toEntries entries)⟩, ?_, value⟩
  have kept := orderEntries_of_ordered (ordered_orderEntries (Node.toEntries entries))
  rw [value, rootDocument, Mapping.ofList]
  congr

theorem rootDocument_of_null (root : node.bare = .null) :
    rootDocument location node.toValue = .ok ∅ := by
  rw [← Node.toValue_bare, root, Node.toValue, rootDocument]

theorem rootDocument_of_other (noMapping : ∀ entries, node.bare ≠ .mapping entries)
    (noNull : node.bare ≠ .null) :
    rootDocument location node.toValue = .error (.parse location .notAMapping) := by
  rw [← Node.toValue_bare]
  cases root : node.bare with
  | null => exact absurd root noNull
  | mapping entries => exact absurd root (noMapping entries)
  | tagged tag inner => exact absurd root (Node.bare_ne_tagged node tag inner)
  | integer n =>
      rw [Node.toValue, Node.integerValue]
      split <;> rfl
  | _ => rfl

end Documents

/-- A node of which every integer fits, as in every parsed text, converts to its value and to
nothing else.  The document of a text is what a mapping at the root converts to; it is empty for a
root that is null and for a blank text, and no other root makes a document. -/
theorem document_conversion :
    (∀ node : Node, node.Fits → ∀ value, Converts node value ↔ value = node.toValue) ∧
      (∀ text node, Yaml.parse text = .ok node → node.Fits) ∧
      ∀ location text,
        ((∀ c ∈ text, Text.isBlank c = true) → parseDocument location text = .ok ∅) ∧
          ((¬ ∀ c ∈ text, Text.isBlank c = true) →
            (∀ fault, Yaml.parse text = .error fault →
              parseDocument location text = .error (.parse location (.yaml fault))) ∧
            ∀ node, Yaml.parse text = .ok node →
              (∀ entries, node.bare = .mapping entries →
                ∃ document, parseDocument location text = .ok document ∧
                  Converts node (.map document.entries)) ∧
              (node.bare = .null → parseDocument location text = .ok ∅) ∧
              ((∀ entries, node.bare ≠ .mapping entries) → node.bare ≠ .null →
                parseDocument location text = .error (.parse location .notAMapping))) := by
  have exact : ∀ node : Node, node.Fits → ∀ value, Converts node value ↔ value = node.toValue := by
    intro node fits value
    constructor
    · exact Converts.eq_toValue
    · rintro rfl
      exact converts_toValue fits
  refine ⟨exact, fun text node => fits_of_parse, fun location text => ⟨parseDocument_of_blank, ?_⟩⟩
  intro visible
  refine ⟨fun fault => parseDocument_of_fault visible, fun node parsed => ?_⟩
  rw [parseDocument_of_node visible parsed]
  refine ⟨fun entries root => ?_, rootDocument_of_null, rootDocument_of_other⟩
  obtain ⟨document, read, value⟩ := rootDocument_of_mapping root
  refine ⟨document, read, ?_⟩
  rw [← value]
  exact converts_toValue (fits_of_parse parsed)

def sharedKeys : String :=
  "1: one\n'1': two\n1.0: three\n!k 1: four\n? [x, !t y]\n: - 9223372036854775807\n" ++
    "  - 18446744073709551615\nnull: !u \x7b2: a, '2': b\x7d\n"

def sharedKeysDocument : Document :=
  Mapping.ofList
    [("1", .text "four"), ("", .map [("2", .text "b")]),
      ("[\"x\",\"y\"]",
        .list [.integer 9223372036854775807, .float (Binary64.ofNat (Nat.pow 2 64 - 1))])]

theorem document_conversion_sharedKeys :
    ∃ node, Yaml.parse sharedKeys.toList = .ok node ∧ node.Fits ∧
      Converts node (.map sharedKeysDocument.entries) ∧
      parseDocument "a.yml" sharedKeys.toList = .ok sharedKeysDocument := by
  obtain ⟨exact, fits, documents⟩ := document_conversion
  have value : (Yaml.parse sharedKeys.toList).toOption.map Node.toValue =
      some (.map sharedKeysDocument.entries) := by decide +kernel
  cases parsed : Yaml.parse sharedKeys.toList with
  | error fault =>
      rw [parsed] at value
      cases value
  | ok node =>
      rw [parsed] at value
      have converted : node.toValue = .map sharedKeysDocument.entries := Option.some.inj value
      have nodeFits := fits _ node parsed
      have visible : ¬ ∀ c ∈ sharedKeys.toList, Text.isBlank c = true := fun blank =>
        absurd (blank '1' (by decide +kernel)) (by decide)
      obtain ⟨entries, root⟩ := Node.bare_of_toValue converted
      have rooted := ((documents "a.yml" _).2 visible).2 node parsed
      obtain ⟨document, read, held⟩ := rooted.1 entries root
      have same := ((exact node nodeFits _).mp held).trans converted
      have documentSame : document = sharedKeysDocument :=
        Mapping.ext_get? fun key => congrArg (lookup key) (Value.map.inj same)
      rw [documentSame] at read
      exact ⟨node, rfl, nodeFits, (exact node nodeFits _).mpr converted.symm, read⟩

end LayeredConfig
