import LayeredConfig.ConfigError
import LayeredConfig.Json.Parser
import LayeredConfig.Shell.Words
import LayeredConfig.Text.Separated

/-!
# Reading documents

The value under a key as it is handed out: as a value, as text, as a list or as the arguments of a
command.  A list is written as a list, as a JSON array or as text with commas; arguments are
written as a list or as shell words.
-/

set_option autoImplicit false

namespace LayeredConfig

namespace Value

/-- The list in a text: a JSON array if it starts like one, or else the parts between commas. -/
def listInText (key text : String) : Except ConfigError (List Value) :=
  if text.isEmpty then .ok []
  else if text.toList.head? = some '[' then
    match Json.parse? text.toList with
    | none => .error (.malformedList key .json)
    | some (.list items) => .ok items
    | some _ => .error (.malformedList key .notAnArray)
  else .ok ((Text.splitText ',' text).map .text)

/-- The list that a value stands for; null stands for none. -/
def listUnder (key : String) : Value → Except ConfigError (Option (List Value))
  | .null => .ok none
  | .list items => .ok (some items)
  | .map _ => .error (.malformedList key .mapAsList)
  | value => (listInText key value.envText).map some

def wordsInText (key text : String) : Except ConfigError (List String) :=
  match Shell.words? text with
  | some words => .ok words
  | none => .error (.malformedList key .unbalancedQuoting)

/-- The arguments that a value stands for; null stands for none. -/
def argumentsUnder (key : String) : Value → Except ConfigError (Option (List String))
  | .null => .ok none
  | .list items => .ok (some (items.map envText))
  | .map _ => .error (.malformedList key .mapAsArguments)
  | value => (wordsInText key value.envText).map some

end Value

namespace Document

def value? (document : Document) (key : String) : Option Value :=
  (Mapping.get? document key).map Value.normalized

def valueOr (document : Document) (key : String) (default : Value) : Value :=
  (document.value? key).getD default

def text? (document : Document) (key : String) : Option String :=
  (document.value? key).map Value.envText

/-- The list under a key; there is none under a null. -/
def list? (document : Document) (key : String) : Except ConfigError (Option (List Value)) :=
  match document.value? key with
  | none => .ok none
  | some value => value.listUnder key

def listOr (document : Document) (key : String) (default : List Value) :
    Except ConfigError (List Value) :=
  (document.list? key).map fun items => items.getD default

/-- The arguments under a key; there are none under a null. -/
def arguments? (document : Document) (key : String) : Except ConfigError (Option (List String)) :=
  match document.value? key with
  | none => .ok none
  | some value => value.argumentsUnder key

end Document

end LayeredConfig
