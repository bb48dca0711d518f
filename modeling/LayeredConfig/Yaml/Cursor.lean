/-!
# Places in a YAML text

The classes of characters, and a cursor that knows the rest of the text and where in the text it
stands.  A carriage return with a line feed is one line break.
-/

set_option autoImplicit false

namespace LayeredConfig.Yaml

def isPrintable (c : Char) : Bool :=
  let n := c.toNat
  n == 0x09 || n == 0x0A || n == 0x0D || (0x20 ≤ n && n ≤ 0x7E) || n == 0x85 ||
    (0xA0 ≤ n && n ≤ 0xD7FF) || (0xE000 ≤ n && n ≤ 0xFFFD) || 0x10000 ≤ n

def isBlank (c : Char) : Bool := c == ' ' || c == '\t'

/-- The line separator and the paragraph separator, which folding keeps. -/
def isSeparatorBreak (c : Char) : Bool := c.toNat == 0x2028 || c.toNat == 0x2029

def isBreak (c : Char) : Bool :=
  c == '\n' || c == '\r' || c.toNat == 0x85 || isSeparatorBreak c

def isNameChar (c : Char) : Bool :=
  c.isAlphanum || c == '-' || c == '_'

def isFlowIndicator (c : Char) : Bool :=
  c == ',' || c == '[' || c == ']' || c == '{' || c == '}'

/-- The end of the text or of a line. -/
def endsLine : Option Char → Bool
  | none => true
  | some c => isBreak c

/-- The end of the text, of a line or of a word. -/
def endsWord : Option Char → Bool
  | none => true
  | some c => isBlank c || isBreak c

structure Cursor where
  rest : List Char
  /-- The number of bytes before. -/
  offset : Nat
  /-- The number of lines before. -/
  line : Nat
  /-- The number of characters before on this line. -/
  column : Nat

namespace Cursor

def start (text : List Char) : Cursor := ⟨text, 0, 0, 0⟩

def head? (cursor : Cursor) : Option Char := cursor.rest.head?

def at? (cursor : Cursor) (places : Nat) : Option Char := cursor.rest[places]?

def byteLength (text : List Char) : Nat :=
  text.foldl (fun sum c => sum + c.utf8Size) 0

def forward (cursor : Cursor) (places : Nat) : Cursor :=
  { cursor with
    rest := cursor.rest.drop places
    offset := cursor.offset + byteLength (cursor.rest.take places)
    column := cursor.column + places }

def before (cursor : Cursor) (rest : List Char) : Cursor :=
  cursor.forward (cursor.rest.length - rest.length)

/-- The cursor after the characters of a class, none of them a break. -/
def skipWhile (cursor : Cursor) (member : Char → Bool) : Cursor :=
  cursor.forward (cursor.rest.takeWhile member).length

/-- The line break here and the cursor after it; nothing when there is none.  All breaks but the
two separators are read as a line feed. -/
def readBreak (cursor : Cursor) : List Char × Cursor :=
  match cursor.rest with
  | '\r' :: '\n' :: rest => (['\n'], ⟨rest, cursor.offset + 2, cursor.line + 1, 0⟩)
  | c :: rest =>
      if isBreak c then
        (if isSeparatorBreak c then [c] else ['\n'],
          ⟨rest, cursor.offset + c.utf8Size, cursor.line + 1, 0⟩)
      else ([], cursor)
  | [] => ([], cursor)

/-- A mark of three characters at the start of a line that ends or begins a document. -/
def atMark (cursor : Cursor) (c : Char) : Bool :=
  cursor.column == 0 && cursor.rest.take 3 == [c, c, c] && endsWord (cursor.at? 3)

def atDocumentMark (cursor : Cursor) : Bool :=
  cursor.atMark '-' || cursor.atMark '.'

end Cursor

end LayeredConfig.Yaml
