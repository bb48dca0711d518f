import LayeredConfig.Yaml.Cursor
import LayeredConfig.Yaml.Fault

/-!
# Block scalars

A block scalar is the indented lines below its heading.  A literal scalar keeps its line breaks; a
folded one joins lines by spaces, except next to lines that start with a blank.  The heading says
how much the lines are indented, or the first line shows it, and what becomes of the breaks at the
end.
-/

set_option autoImplicit false

namespace LayeredConfig.Yaml

/-- What becomes of the line breaks at the end of a block scalar. -/
inductive Chomping where
  /-- None is kept. -/
  | strip
  /-- The break of the last line is kept. -/
  | clip
  /-- All are kept. -/
  | keep
  deriving DecidableEq, Repr

structure BlockHeading where
  chomping : Chomping
  /-- The indentation of the lines beyond that of the node; `none` to take it from the lines. -/
  increment : Option Nat

def chomping? (c : Char) : Option Chomping :=
  if c = '+' then some .keep else if c = '-' then some .strip else none

def increment? (c : Char) : Option Nat :=
  if '1' ≤ c ∧ c ≤ '9' then some (c.toNat - '0'.toNat) else none

def readIndicators (text : List Char) : BlockHeading × List Char :=
  match text with
  | [] => (⟨.clip, none⟩, [])
  | c :: rest =>
      match chomping? c with
      | some chomping =>
          match rest with
          | [] => (⟨chomping, none⟩, [])
          | d :: after =>
              match increment? d with
              | some n => (⟨chomping, some n⟩, after)
              | none => (⟨chomping, none⟩, rest)
      | none =>
          match increment? c with
          | none => (⟨.clip, none⟩, text)
          | some n =>
              match rest with
              | [] => (⟨.clip, some n⟩, [])
              | d :: after =>
                  match chomping? d with
                  | some chomping => (⟨chomping, some n⟩, after)
                  | none => (⟨.clip, some n⟩, rest)

/-- Reads a heading with the blanks and the comment behind it, up to the next line. -/
def Cursor.readBlockHeading (cursor : Cursor) : Except Fault (BlockHeading × Cursor) :=
  let (heading, rest) := readIndicators cursor.rest
  let cursor := (cursor.before rest).skipWhile isBlank
  let cursor :=
    if cursor.head? = some '#' then cursor.skipWhile fun c => !isBreak c else cursor
  if endsLine cursor.head? then .ok (heading, cursor.readBreak.2) else .error .blockHeading

/-- The spaces that may be indentation: all of them while the indentation is not known. -/
def Cursor.skipIndentation (cursor : Cursor) (indent : Option Nat) : Cursor :=
  let spaces := (cursor.rest.takeWhile (· == ' ')).length
  match indent with
  | none => cursor.forward spaces
  | some indent => cursor.forward (min spaces (indent - cursor.column))

structure EmptyLines where
  breaks : List Char
  /-- The widest indentation met. -/
  widest : Nat
  /-- Where the next line starts after its indentation. -/
  cursor : Cursor

def readEmptyLines (indent : Option Nat) :
    Nat → List Char → Nat → Cursor → Except Fault EmptyLines
  | 0, breaks, widest, cursor => .ok ⟨breaks, widest, cursor⟩
  | fuel + 1, breaks, widest, cursor =>
      let cursor := cursor.skipIndentation indent
      let widest := max widest cursor.column
      if indent.all (cursor.column < ·) && cursor.head? == some '\t' then .error .tabInIndentation
      else if cursor.head?.any isBreak then
        let (text, next) := cursor.readBreak
        readEmptyLines indent fuel (breaks ++ text) widest next
      else .ok ⟨breaks, widest, cursor⟩

/-- Reads empty lines from a place.  There are fewer than `fuel`. -/
def Cursor.readEmptyLines (cursor : Cursor) (indent : Option Nat) (fuel : Nat) :
    Except Fault EmptyLines :=
  Yaml.readEmptyLines indent fuel [] 0 cursor

structure BlockLines where
  text : List Char
  /-- The break of the last line. -/
  lastBreak : List Char
  /-- The breaks of the empty lines after it. -/
  emptyBreaks : List Char
  /-- The last line starts with a blank. -/
  blankStart : Bool

/-- The break before a new line, newest character first: folded into a space, or into the breaks
of the empty lines, unless one of the lines starts with a blank. -/
def BlockLines.breakBefore (lines : BlockLines) (folded : Bool) (blankStart : Bool) : List Char :=
  if folded && lines.lastBreak == ['\n'] && !lines.blankStart && !blankStart then
    if lines.emptyBreaks.isEmpty then [' '] else lines.emptyBreaks.reverse
  else lines.emptyBreaks.reverse ++ lines.lastBreak.reverse

def readBlockLines (folded : Bool) (indent : Nat) :
    Nat → BlockLines → Cursor → Except Fault (BlockLines × Cursor)
  | 0, lines, cursor => .ok (lines, cursor)
  | fuel + 1, lines, cursor =>
      if cursor.column ≠ indent ∨ cursor.rest.isEmpty then .ok (lines, cursor)
      else
        let blankStart := cursor.head?.any isBlank
        let line := cursor.rest.takeWhile fun c => !isBreak c
        let text := line.reverse ++ (lines.breakBefore folded blankStart ++ lines.text)
        let (lastBreak, next) := (cursor.forward line.length).readBreak
        match next.readEmptyLines (some indent) fuel with
        | .error fault => .error fault
        | .ok empty =>
            readBlockLines folded indent fuel ⟨text, lastBreak, empty.breaks, blankStart⟩
              empty.cursor

def BlockLines.chomped (lines : BlockLines) (chomping : Chomping) : List Char :=
  let ending :=
    match chomping with
    | .strip => []
    | .clip => lines.lastBreak
    | .keep => lines.lastBreak ++ lines.emptyBreaks
  lines.text.reverse ++ ending

/-- Reads a block scalar after its first character, inside a node indented to column
`nodeIndent`, which is negative outside of block collections. -/
def Cursor.readBlock (cursor : Cursor) (folded : Bool) (nodeIndent : Int) :
    Except Fault (List Char × Cursor) := do
  let (heading, cursor) ← cursor.readBlockHeading
  let indent := heading.increment.map fun n => n + nodeIndent.toNat
  let empty ← cursor.readEmptyLines indent (cursor.rest.length + 1)
  let indent := indent.getD (max empty.widest (max (nodeIndent + 1).toNat 1))
  let (lines, cursor) ←
    readBlockLines folded indent (empty.cursor.rest.length + 1)
      ⟨[], [], empty.breaks, false⟩ empty.cursor
  return (lines.chomped heading.chomping, cursor)

end LayeredConfig.Yaml
