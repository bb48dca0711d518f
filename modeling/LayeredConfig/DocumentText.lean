import LayeredConfig.ConfigError
import LayeredConfig.Text.Blank
import LayeredConfig.Yaml.Composition
import LayeredConfig.Yaml.Conversion

/-!
# The text of documents

A document is written in YAML.  Its root is a mapping; a text of blanks only and a null root stand
for the mapping without entries.
-/

set_option autoImplicit false

namespace LayeredConfig

def rootDocument (location : String) (root : Value) : Except ConfigError Document :=
  match root with
  | .map entries => .ok (Mapping.ofList entries)
  | .null => .ok ∅
  | _ => .error (.parse location .notAMapping)

/-- The document in a text.  The location serves to name it in an error. -/
def parseDocument (location : String) (text : List Char) : Except ConfigError Document :=
  if (Text.trim text).isEmpty then .ok ∅
  else
    match Yaml.parse text with
    | .error fault => .error (.parse location (.yaml fault))
    | .ok node => rootDocument location node.toValue

end LayeredConfig
