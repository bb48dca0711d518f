import LayeredConfig.Decimal.Notation
import LayeredConfig.Decimal.Numeral
import LayeredConfig.Value

/-!
# JSON text

Values written as compact JSON, and mappings of strings written on indented lines.  A string is
written with the short escapes, a control character without a short escape as four hexadecimal
digits, and every other character as itself.  A number that is not finite is written `null`.
-/

set_option autoImplicit false

namespace LayeredConfig.Json

def lowerHexDigit (n : Nat) : Char :=
  if n < 10 then Char.ofNat ('0'.toNat + n) else Char.ofNat ('a'.toNat + (n - 10))

def escapeChar (c : Char) : List Char :=
  if c = '"' then ['\\', '"']
  else if c = '\\' then ['\\', '\\']
  else if c = '\n' then ['\\', 'n']
  else if c = '\r' then ['\\', 'r']
  else if c = '\t' then ['\\', 't']
  else if c = '\x08' then ['\\', 'b']
  else if c = '\x0c' then ['\\', 'f']
  else if c.toNat < 0x20 then
    ['\\', 'u', '0', '0', lowerHexDigit (c.toNat / 16), lowerHexDigit (c.toNat % 16)]
  else [c]

def escape (text : List Char) : List Char :=
  text.flatMap escapeChar

def quoted (text : String) : List Char :=
  '"' :: (escape text.toList ++ ['"'])

mutual

def print : Value → List Char
  | .null => "null".toList
  | .bool b => (Value.boolText b).toList
  | .integer n => Decimal.ofInt n.toInt
  | .float x => (Decimal.scientific? x).getD "null".toList
  | .text s => quoted s
  | .list [] => ['[', ']']
  | .list (item :: items) => '[' :: (print item ++ (printItems items ++ [']']))
  | .map [] => ['{', '}']
  | .map ((key, value) :: entries) =>
      '{' :: (quoted key ++ (':' :: (print value ++ (printEntries entries ++ ['}']))))

def printItems : List Value → List Char
  | [] => []
  | item :: items => ',' :: (print item ++ printItems items)

def printEntries : List (String × Value) → List Char
  | [] => []
  | (key, value) :: entries =>
      ',' :: (quoted key ++ (':' :: (print value ++ printEntries entries)))

end

def indentedEntry (entry : String × String) : List Char :=
  '\n' :: ' ' :: ' ' :: (quoted entry.1 ++ (':' :: ' ' :: quoted entry.2))

def indentedEntries : List (String × String) → List Char
  | [] => []
  | entry :: entries => ',' :: (indentedEntry entry ++ indentedEntries entries)

def printIndented (mapping : Mapping String) : List Char :=
  match mapping.entries with
  | [] => ['{', '}']
  | entry :: entries => '{' :: (indentedEntry entry ++ (indentedEntries entries ++ ['\n', '}']))

end LayeredConfig.Json

namespace LayeredConfig.Value

/-- The flat text of a value: nothing for null, the text itself for text, the plain notation for
numbers, and compact JSON for lists and maps. -/
def envText : Value → String
  | .null => ""
  | .bool b => boolText b
  | .integer n => String.ofList (Decimal.ofInt n.toInt)
  | .float x => String.ofList (Decimal.plain x)
  | .text s => s
  | .list items => String.ofList (Json.print (.list items))
  | .map entries => String.ofList (Json.print (.map entries))

end LayeredConfig.Value
