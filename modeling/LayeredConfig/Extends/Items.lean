import LayeredConfig.ConfigError
import LayeredConfig.Text.Blank
import LayeredConfig.Text.Separated

/-!
# Ancestors of a document

A document names the documents that it extends under one key, as a text with commas between the
names or as a list of texts.  Blanks around a name are not part of it.
-/

set_option autoImplicit false

namespace LayeredConfig

def extendsKey : String := "EXTENDS"

/-- The ancestors named in a text with commas between them; blank names are left out. -/
def ancestorsInText (text : String) : List String :=
  ((Text.splitText ',' text).map Text.trimmed).filter fun name => !name.isEmpty

def ancestorInItem : Value → Except ConfigError String
  | .text name => .ok (Text.trimmed name)
  | found => .error (.parse extendsKey (.ancestorItem found))

/-- The ancestors named in a list, up to the first item that is not text. -/
def ancestorsInList : List Value → Except ConfigError (List String)
  | [] => .ok []
  | item :: items =>
      match ancestorInItem item with
      | .error error => .error error
      | .ok name => (ancestorsInList items).map (name :: ·)

/-- The ancestors that a document names, in the order in which it names them. -/
def Document.ancestors (document : Document) : Except ConfigError (List String) :=
  match Mapping.get? document extendsKey with
  | none => .ok []
  | some .null => .ok []
  | some (.text text) => .ok (ancestorsInText text)
  | some (.list items) => ancestorsInList items
  | some found => .error (.parse extendsKey (.ancestors found))

end LayeredConfig
