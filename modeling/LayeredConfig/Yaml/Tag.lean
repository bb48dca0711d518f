import LayeredConfig.Decimal.Numeral
import LayeredConfig.Yaml.Cursor
import LayeredConfig.Yaml.Fault
import LayeredConfig.Yaml.Token

/-!
# Anchors, tags and directives

The tokens that name things.  The text of a tag is bytes, since its escapes name bytes; an escaped
zero byte ends the text, and what is written behind it does not count.
-/

set_option autoImplicit false

namespace LayeredConfig.Yaml

/-! ## Anchors -/

def endsAnchor : Option Char → Bool
  | none => true
  | some c =>
      isBlank c || isBreak c || c == '?' || c == ':' || c == ',' || c == ']' || c == '}' ||
        c == '%' || c == '@' || c == '\x60'

def Cursor.readAnchor (cursor : Cursor) : Except Fault (List Char × Cursor) :=
  let name := cursor.rest.takeWhile isNameChar
  let next := cursor.forward name.length
  if name.isEmpty || !endsAnchor next.head? then .error .anchorName else .ok (name, next)

/-! ## Tags -/

def isTagChar (c : Char) : Bool :=
  isNameChar c || c == ';' || c == '/' || c == '?' || c == ':' || c == '@' || c == '&' ||
    c == '=' || c == '+' || c == '$' || c == '.' || c == '!' || c == '~' || c == '*' ||
    c == '\'' || c == '(' || c == ')'

/-- The characters that only a tag in angle brackets or a declared prefix may hold. -/
def isVerbatimTagChar (c : Char) : Bool := c == ',' || c == '[' || c == ']'

def trailingBytes? (lead : Nat) : Option Nat :=
  if lead < 0x80 then some 0
  else if 0xC0 ≤ lead ∧ lead < 0xE0 then some 1
  else if 0xE0 ≤ lead ∧ lead < 0xF0 then some 2
  else if 0xF0 ≤ lead ∧ lead < 0xF8 then some 3
  else none

/-- The text of a tag at the start of a text; `owed` bytes must follow as escapes. -/
def readTagText (verbatim : Bool) : Nat → Nat → List Char → Except Fault (List UInt8 × List Char)
  | 0, _, text => .ok ([], text)
  | fuel + 1, owed, text =>
      match text with
      | '%' :: a :: b :: rest =>
          match Decimal.natural? 16 [a, b] with
          | none => .error .tagText
          | some byte =>
              let next :=
                match owed with
                | 0 => trailingBytes? byte
                | more + 1 => if 0x80 ≤ byte ∧ byte < 0xC0 then some more else none
              match next with
              | none => .error .tagText
              | some owed =>
                  (readTagText verbatim fuel owed rest).map fun (bytes, rest) =>
                    (UInt8.ofNat byte :: bytes, rest)
      | c :: rest =>
          if c = '%' ∨ owed ≠ 0 then .error .tagText
          else if isTagChar c || (verbatim && isVerbatimTagChar c) then
            (readTagText verbatim fuel 0 rest).map fun (bytes, rest) =>
              (UInt8.ofNat c.toNat :: bytes, rest)
          else .ok ([], c :: rest)
      | [] => if owed ≠ 0 then .error .tagText else .ok ([], [])

def Cursor.readTagText (cursor : Cursor) (verbatim : Bool) :
    Except Fault (List UInt8 × Cursor) :=
  (Yaml.readTagText verbatim (cursor.rest.length + 1) 0 cursor.rest).map fun (bytes, rest) =>
    (bytes, cursor.before rest)

/-- The bytes that count: those before the first zero byte. -/
def beforeZero (bytes : List UInt8) : List UInt8 := bytes.takeWhile (· ≠ 0)

/-- The mark at the start of a text with the name behind it, and the second mark if there is one. -/
def readHandle : List Char → Option (List Char × List Char)
  | '!' :: rest =>
      let name := rest.takeWhile isNameChar
      match rest.drop name.length with
      | '!' :: after => some ('!' :: name ++ ['!'], after)
      | after => some ('!' :: name, after)
  | _ => none

def asciiBytes (text : List Char) : List UInt8 := text.map fun c => UInt8.ofNat c.toNat

/-- Reads a tag: text in angle brackets, a handle between marks with a suffix, or a suffix behind a
single mark.  A mark without suffix is a tag of its own. -/
def Cursor.readTag (cursor : Cursor) (inFlow : Bool) : Except Fault (Token × Cursor) := do
  let (token, cursor) ←
    if cursor.at? 1 = some '<' then do
      let (suffix, cursor) ← (cursor.forward 2).readTagText true
      if suffix.isEmpty || cursor.head? != some '>' then throw .tagText
      pure (Token.tag [] (beforeZero suffix), cursor.forward 1)
    else
      match readHandle cursor.rest with
      | none => throw .tagText
      | some (handle, rest) =>
          if 2 ≤ handle.length ∧ handle.getLast? = some '!' then do
            let (suffix, cursor) ← (cursor.before rest).readTagText false
            if suffix.isEmpty then throw .tagText
            pure (Token.tag handle (beforeZero suffix), cursor)
          else do
            let (more, cursor) ← (cursor.before rest).readTagText false
            let suffix := beforeZero (asciiBytes (handle.drop 1) ++ more)
            if suffix.isEmpty then pure (Token.tag [] (asciiBytes ['!']), cursor)
            else pure (Token.tag ['!'] suffix, cursor)
  if endsWord cursor.head? || (inFlow && cursor.head? == some ',') then return (token, cursor)
  else throw .tagText

/-! ## Directives -/

/-- The most digits of a version number. -/
def maxVersionDigits : Nat := 9

def Cursor.readVersionNumber (cursor : Cursor) : Except Fault (Nat × Cursor) :=
  let digits := cursor.rest.takeWhile Char.isDigit
  if maxVersionDigits < digits.length then .error .directive
  else
    match Decimal.natural? 10 digits with
    | some n => .ok (n, cursor.forward digits.length)
    | none => .error .directive

def Cursor.readVersion (cursor : Cursor) : Except Fault (Token × Cursor) := do
  let (major, cursor) ← (cursor.skipWhile isBlank).readVersionNumber
  if cursor.head? != some '.' then throw .directive
  let (minor, cursor) ← (cursor.forward 1).readVersionNumber
  return (.version major minor, cursor)

def Cursor.readTagDirective (cursor : Cursor) : Except Fault (Token × Cursor) := do
  let cursor := cursor.skipWhile isBlank
  match readHandle cursor.rest with
  | none => throw .directive
  | some (handle, rest) =>
      if handle.getLast? != some '!' then throw .directive
      let cursor := cursor.before rest
      if !cursor.head?.any isBlank then throw .directive
      let (expansion, cursor) ← (cursor.skipWhile isBlank).readTagText true
      if expansion.isEmpty || !endsWord cursor.head? then throw .directive
      return (.tagHandle handle (beforeZero expansion), cursor)

def Cursor.readDirective (cursor : Cursor) : Except Fault (Token × Cursor) := do
  let cursor := cursor.forward 1
  let name := cursor.rest.takeWhile isNameChar
  let cursor := cursor.forward name.length
  if !endsWord cursor.head? then throw .directive
  let (token, cursor) ←
    if name = "YAML".toList then cursor.readVersion
    else if name = "TAG".toList then cursor.readTagDirective
    else throw .directive
  let cursor := cursor.skipWhile isBlank
  let cursor := if cursor.head? = some '#' then cursor.skipWhile fun c => !isBreak c else cursor
  if !endsLine cursor.head? then throw .directive
  return (token, cursor.readBreak.2)

end LayeredConfig.Yaml
