import LayeredConfig.Decimal.Numeral
import LayeredConfig.Yaml.Cursor
import LayeredConfig.Yaml.Fault

/-!
# Plain and quoted scalars

Such a scalar is runs of characters with gaps of blanks and line breaks between them.  A gap within
a line is kept.  A gap over line breaks is folded: a single break becomes a space, and of several
breaks the first one is dropped.
-/

set_option autoImplicit false

namespace LayeredConfig.Yaml

/-! ## Gaps -/

structure Gap where
  /-- The blanks before the first break. -/
  blanks : List Char
  /-- The first break; empty when it was escaped. -/
  firstBreak : Option (List Char)
  /-- The breaks after the first one. -/
  laterBreaks : List Char

def Gap.folded (gap : Gap) : List Char :=
  match gap.firstBreak with
  | none => gap.blanks
  | some ['\n'] => if gap.laterBreaks.isEmpty then [' '] else gap.laterBreaks
  | some kept => kept ++ gap.laterBreaks

/-- Reads the rest of a gap.  After a break a tab may not stand left of column `indent`. -/
def readGap (indent : Int) : Nat → Gap → Cursor → Except Fault (Gap × Cursor)
  | 0, gap, cursor => .ok (gap, cursor)
  | fuel + 1, gap, cursor =>
      match cursor.head? with
      | none => .ok (gap, cursor)
      | some c =>
          if isBlank c then
            if gap.firstBreak.isSome then
              if c = '\t' ∧ (cursor.column : Int) < indent then .error .tabInIndentation
              else readGap indent fuel gap (cursor.forward 1)
            else readGap indent fuel { gap with blanks := gap.blanks ++ [c] } (cursor.forward 1)
          else if isBreak c then
            let (text, next) := cursor.readBreak
            match gap.firstBreak with
            | none => readGap indent fuel { gap with firstBreak := some text } next
            | some _ => readGap indent fuel { gap with laterBreaks := gap.laterBreaks ++ text } next
          else .ok (gap, cursor)

/-- Reads a gap from its start.  It has at most `fuel` characters. -/
def Cursor.readGap (cursor : Cursor) (indent : Int) (fuel : Nat)
    (firstBreak : Option (List Char)) : Except Fault (Gap × Cursor) :=
  Yaml.readGap indent fuel ⟨[], firstBreak, []⟩ cursor

/-! ## Plain scalars -/

/-- The characters that make a colon before them an error inside a flow collection. -/
def isColonHazard (c : Char) : Bool := isFlowIndicator c || c == '?'

def plainRun (inFlow : Bool) : List Char → Except Fault (List Char × List Char)
  | [] => .ok ([], [])
  | c :: rest =>
      if isBlank c || isBreak c then .ok ([], c :: rest)
      else if inFlow && c == ':' && rest.head?.any isColonHazard then .error .colonInFlow
      else if (c == ':' && endsWord rest.head?) || (inFlow && isFlowIndicator c) then
        .ok ([], c :: rest)
      else
        match plainRun inFlow rest with
        | .error fault => .error fault
        | .ok (run, rest) => .ok (c :: run, rest)

structure ReadScalar where
  text : List Char
  /-- The reading went on to a new line after the last run. -/
  crossedLine : Bool
  cursor : Cursor

/-- Reads a plain scalar on from a gap.  `text` holds the characters read, newest first.  Each run
takes a character at least, so a fuel above the number of characters suffices for the runs and for
each gap. -/
def plainFrom (inFlow : Bool) (indent : Int) :
    Nat → List Char → Gap → Cursor → Except Fault ReadScalar
  | 0, text, gap, cursor => .ok ⟨text.reverse, gap.firstBreak.isSome, cursor⟩
  | fuel + 1, text, gap, cursor =>
      if cursor.atDocumentMark || cursor.head? == some '#' then
        .ok ⟨text.reverse, gap.firstBreak.isSome, cursor⟩
      else
        match plainRun inFlow cursor.rest with
        | .error fault => .error fault
        | .ok ([], _) => .ok ⟨text.reverse, gap.firstBreak.isSome, cursor⟩
        | .ok (run, rest) =>
            let text := run.reverse ++ (gap.folded.reverse ++ text)
            let cursor := cursor.forward run.length
            if rest.head?.any fun c => isBlank c || isBreak c then
              match cursor.readGap indent fuel none with
              | .error fault => .error fault
              | .ok (gap, cursor) =>
                  if !inFlow && (cursor.column : Int) < indent then
                    .ok ⟨text.reverse, gap.firstBreak.isSome, cursor⟩
                  else plainFrom inFlow indent fuel text gap cursor
            else .ok ⟨text.reverse, false, cursor⟩

/-- Reads a plain scalar whose lines are indented to column `indent` at least. -/
def Cursor.readPlain (cursor : Cursor) (inFlow : Bool) (indent : Int) :
    Except Fault ReadScalar :=
  plainFrom inFlow indent (cursor.rest.length + 1) [] ⟨[], none, []⟩ cursor

/-! ## Quoted scalars -/

def escapeChar? (c : Char) : Option Char :=
  if c = '0' then some '\x00'
  else if c = 'a' then some '\x07'
  else if c = 'b' then some '\x08'
  else if c = 't' ∨ c = '\t' then some '\t'
  else if c = 'n' then some '\n'
  else if c = 'v' then some '\x0b'
  else if c = 'f' then some '\x0c'
  else if c = 'r' then some '\r'
  else if c = 'e' then some '\x1b'
  else if c = ' ' then some ' '
  else if c = '"' then some '"'
  else if c = '/' then some '/'
  else if c = '\\' then some '\\'
  else if c = 'N' then some '\u0085'
  else if c = '_' then some '\u00a0'
  else if c = 'L' then some '\u2028'
  else if c = 'P' then some '\u2029'
  else none

def escapeWidth? (c : Char) : Option Nat :=
  if c = 'x' then some 2
  else if c = 'u' then some 4
  else if c = 'U' then some 8
  else none

def charOfCode? (code : Nat) : Option Char :=
  if h : code.isValidChar then some (Char.ofNatAux code h) else none

def singleRun : List Char → List Char × List Char
  | [] => ([], [])
  | c :: rest =>
      if c = '\'' then
        match rest with
        | '\'' :: rest =>
            let (run, rest) := singleRun rest
            ('\'' :: run, rest)
        | rest => ([], '\'' :: rest)
      else if isBlank c || isBreak c then ([], c :: rest)
      else
        let (run, rest) := singleRun rest
        (c :: run, rest)

/-- The run of a double-quoted scalar at the start of a text, newest character first, and the
rest.  An escaped line break ends the run. -/
def doubleRun : Nat → List Char → List Char → Except Fault (List Char × List Char)
  | 0, run, text => .ok (run, text)
  | _ + 1, run, [] => .ok (run, [])
  | fuel + 1, run, c :: rest =>
      if c = '"' ∨ isBlank c ∨ isBreak c then .ok (run, c :: rest)
      else if c = '\\' then
        match rest with
        | [] => .error .escape
        | escaped :: rest =>
            if isBreak escaped then .ok (run, c :: escaped :: rest)
            else
              match escapeChar? escaped, escapeWidth? escaped with
              | some c, _ => doubleRun fuel (c :: run) rest
              | none, none => .error .escape
              | none, some width =>
                  let digits := rest.take width
                  if digits.length = width then
                    match (Decimal.natural? 16 digits).bind charOfCode? with
                    | some c => doubleRun fuel (c :: run) (rest.drop width)
                    | none => .error .escape
                  else .error .escape
      else doubleRun fuel (c :: run) rest

/-- The run of a quoted scalar at the start of a text, newest character first, and the rest. -/
def quotedRun (quote : Char) (text : List Char) : Except Fault (List Char × List Char) :=
  if quote = '\'' then
    let (run, rest) := singleRun text
    .ok (run.reverse, rest)
  else doubleRun (text.length + 1) [] text

/-- Reads a quoted scalar on after its opening quote.  `text` holds the characters read, newest
first. -/
def quotedFrom (quote : Char) : Nat → List Char → Cursor → Except Fault (List Char × Cursor)
  | 0, _, _ => .error .unclosedQuote
  | fuel + 1, text, cursor =>
      if cursor.atDocumentMark || cursor.rest.isEmpty then .error .unclosedQuote
      else
        match quotedRun quote cursor.rest with
        | .error fault => .error fault
        | .ok (run, rest) =>
            let text := run ++ text
            let cursor := cursor.before rest
            if rest.head? = some quote then .ok (text.reverse, cursor.forward 1)
            else
              let gap :=
                if rest.head? = some '\\' then
                  (cursor.forward 1).readBreak.2.readGap 0 fuel (some [])
                else cursor.readGap 0 fuel none
              match gap with
              | .error fault => .error fault
              | .ok (gap, cursor) => quotedFrom quote fuel (gap.folded.reverse ++ text) cursor

def Cursor.readQuoted (cursor : Cursor) (quote : Char) : Except Fault (List Char × Cursor) :=
  quotedFrom quote (cursor.rest.length + 1) [] (cursor.forward 1)

end LayeredConfig.Yaml
