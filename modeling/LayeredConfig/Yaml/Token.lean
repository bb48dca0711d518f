/-!
# YAML tokens

The tokens of a YAML text.  Indentation has become tokens that begin and end block collections, and
a mapping key is marked in front of it, also where only the colon behind it shows that it is one.
The end of the list of tokens is the end of the text.
-/

set_option autoImplicit false

namespace LayeredConfig.Yaml

inductive Token where
  | version (major minor : Nat)
  | tagHandle (handle : List Char) (expansion : List UInt8)
  | documentStart
  | documentEnd
  | blockSequenceStart
  | blockMappingStart
  | blockEnd
  | flowSequenceStart
  | flowSequenceEnd
  | flowMappingStart
  | flowMappingEnd
  | blockEntry
  | flowEntry
  | key
  | value
  | alias (name : List Char)
  | anchor (name : List Char)
  | tag (handle : List Char) (suffix : List UInt8)
  | scalar (text : List Char) (plain : Bool)
  deriving DecidableEq, Repr

end LayeredConfig.Yaml
