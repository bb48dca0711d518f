import LayeredConfig.Decimal.Numeral
import LayeredConfig.Text.Utf8
import LayeredConfig.Yaml.Fault
import LayeredConfig.Yaml.Node

/-!
# Types of scalars

What a scalar means.  A scalar in quotes is text.  A plain scalar is the first of null, boolean,
integer, floating point number and text that its characters allow.  A tag of the standard types
forces its type on quoted scalars too, and any other standard tag makes the scalar text.
-/

set_option autoImplicit false

namespace LayeredConfig.Yaml

/-! ## Plain scalars -/

def isNullName (text : List Char) : Bool :=
  ["~", "null", "Null", "NULL"].any (·.toList == text)

def bool? (text : List Char) : Option Bool :=
  if ["true", "True", "TRUE"].any (·.toList == text) then some true
  else if ["false", "False", "FALSE"].any (·.toList == text) then some false
  else none

/-- Digits with a needless zero in front, after an optional sign; these are no number. -/
def hasLeadingZero (text : List Char) : Bool :=
  match (Decimal.splitSign text).2 with
  | '0' :: d :: rest => Decimal.allDigits (d :: rest)
  | _ => false

def based? : List Char → Option Nat
  | '0' :: 'x' :: digits => Decimal.natural? 16 digits
  | '0' :: 'o' :: digits => Decimal.natural? 8 digits
  | '0' :: 'b' :: digits => Decimal.natural? 2 digits
  | digits => Decimal.natural? 10 digits

def integer? (text : List Char) : Option Int :=
  if hasLeadingZero text then none
  else
    let (negative, digits) := Decimal.splitSign text
    (based? digits).map fun n => if negative then -(n : Int) else (n : Int)

/-- The names of infinity, after its sign. -/
def isInfinityName (text : List Char) : Bool :=
  [".inf", ".Inf", ".INF"].any (·.toList == text)

def isNanName (text : List Char) : Bool :=
  [".nan", ".NaN", ".NAN"].any (·.toList == text)

/-- A floating point number: a name, or a decimal number that is not too large. -/
def float? (text : List Char) : Option Binary64 :=
  let (negative, rest) := Decimal.splitSign text
  if isInfinityName rest then some (.infinite negative)
  else if isNanName text then some .nan
  else (Decimal.decimal? negative rest).filter (·.isFinite)

def fits64 (n : Int) : Bool := -Int.pow 2 63 ≤ n && n < Int.pow 2 64

def fits128 (n : Int) : Bool := -Int.pow 2 127 ≤ n && n < Int.pow 2 128

/-- The integer node of a text.  An integer that only fits in 128 bits is refused; a wider one is
no integer. -/
def integerNode? (text : List Char) : Except Fault (Option Node) :=
  match integer? text with
  | none => .ok none
  | some n =>
      if fits64 n then .ok (some (.integer n))
      else if fits128 n then .error .wideInteger
      else .ok none

def plainNode (text : List Char) : Except Fault Node :=
  if text.isEmpty || isNullName text then .ok .null
  else
    match bool? text with
    | some b => .ok (.bool b)
    | none =>
        match integerNode? text with
        | .error fault => .error fault
        | .ok (some node) => .ok node
        | .ok none =>
            match (if hasLeadingZero text then none else float? text) with
            | some x => .ok (.float x)
            | none => .ok (.text (String.ofList text))

/-! ## Tags -/

inductive StandardTag where
  | bool
  | int
  | float
  | null
  deriving DecidableEq, Repr

def standardTag? (tag : List UInt8) : Option StandardTag :=
  if tag = Text.bytesOf "tag:yaml.org,2002:bool" then some .bool
  else if tag = Text.bytesOf "tag:yaml.org,2002:int" then some .int
  else if tag = Text.bytesOf "tag:yaml.org,2002:float" then some .float
  else if tag = Text.bytesOf "tag:yaml.org,2002:null" then some .null
  else none

def forcedNode (tag : StandardTag) (text : List Char) : Except Fault Node :=
  match tag with
  | .bool =>
      match bool? text with
      | some b => .ok (.bool b)
      | none => .error .scalarType
  | .int =>
      match integerNode? text with
      | .error fault => .error fault
      | .ok (some node) => .ok node
      | .ok none => .error .scalarType
  | .float =>
      match float? text with
      | some x => .ok (.float x)
      | none => .error .scalarType
  | .null => if isNullName text then .ok .null else .error .scalarType

def tagMark : UInt8 := 0x21

/-- The name of a tag of an application, without its mark; the mark alone is a name, too. -/
def applicationTag? (tag : List UInt8) : Option (List Char) :=
  match tag with
  | [] => none
  | mark :: name =>
      if mark = tagMark then (Text.decode (if name.isEmpty then tag else name)).toOption else none

def scalarNode (tag : Option (List UInt8)) (text : List Char) (plain : Bool) :
    Except Fault Node :=
  let asText := Except.ok (Node.text (String.ofList text))
  match tag with
  | none => if plain then plainNode text else asText
  | some tag =>
      match standardTag? tag with
      | some standard => forcedNode standard text
      | none => if plain && tag.head? == some tagMark then plainNode text else asText

end LayeredConfig.Yaml
