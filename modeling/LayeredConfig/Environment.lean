import LayeredConfig.Text.Utf8
import LayeredConfig.Value

/-!
# Environments

The variables that a process is given.  A variable whose name or value is not UTF-8 is passed over.
-/

set_option autoImplicit false

namespace LayeredConfig

abbrev Environment : Type := Mapping String

namespace Environment

/-- The variable of a pair of byte strings, if both are text. -/
def pairOf? (pair : List UInt8 × List UInt8) : Option (String × String) :=
  match Text.decodeText pair.1, Text.decodeText pair.2 with
  | .ok name, .ok value => some (name, value)
  | _, _ => none

def ofBytes (pairs : List (List UInt8 × List UInt8)) : Environment :=
  Mapping.ofList (pairs.filterMap pairOf?)

def splitBlock : List UInt8 → List (List UInt8)
  | [] => [[]]
  | 0 :: rest => [] :: splitBlock rest
  | byte :: rest =>
      match splitBlock rest with
      | [] => [[byte]]
      | part :: parts => (byte :: part) :: parts

/-- The name and the value in the bytes of one variable: those before the first `=` and those after
it.  A name has at least one byte, whatever that byte is. -/
def splitVariable : List UInt8 → Option (List UInt8 × List UInt8)
  | [] => none
  | first :: rest =>
      let name := rest.takeWhile (· ≠ 0x3D)
      match rest.drop name.length with
      | [] => none
      | _ :: value => some (first :: name, value)

/-- The environment in a block of bytes with a zero byte after each variable. -/
def ofBlock (block : List UInt8) : Environment :=
  ofBytes ((splitBlock block).filterMap splitVariable)

def document (environment : Environment) : Document :=
  Mapping.mapEntries (fun _ value => .text value) environment

end Environment

end LayeredConfig
