import LayeredConfig.Yaml.BlockScalar
import LayeredConfig.Yaml.FlowScalar
import LayeredConfig.Yaml.Tag

/-!
# From text to tokens

The lexer goes through a text once.  It keeps the columns of the block collections that are open,
so that a token further left ends them, and for each level of flow collections the place of a token
that may turn out to be a key.  When a colon shows that it is one, the tokens that say so are put in
at that place.  A key found that way ends on the line where it starts and its colon stands at most
1024 bytes behind its start.
-/

set_option autoImplicit false

namespace LayeredConfig.Yaml

structure KeyCandidate where
  /-- Only a key can stand there, so a missing colon is an error. -/
  required : Bool
  /-- The number of tokens before it. -/
  slot : Nat
  offset : Nat
  line : Nat
  column : Nat

structure Lexer where
  cursor : Cursor
  /-- The tokens found, newest first. -/
  tokens : List Token
  count : Nat
  /-- The column of the innermost block collection, and `-1` outside of all. -/
  indent : Int
  /-- The columns of the collections around it. -/
  outerIndents : List Int
  /-- A key may start here. -/
  keyAllowed : Bool
  /-- The candidate of each flow collection, innermost first. -/
  flowCandidates : List (Option KeyCandidate)
  /-- The candidate outside of flow collections. -/
  blockCandidate : Option KeyCandidate

def maxKeyLength : Nat := 1024

namespace Lexer

def start (text : List Char) : Lexer :=
  ⟨Cursor.start text, [], 0, -1, [], true, [], none⟩

/-- Inside a flow collection. -/
def inFlow (lexer : Lexer) : Bool := !lexer.flowCandidates.isEmpty

def push (lexer : Lexer) (token : Token) : Lexer :=
  { lexer with tokens := token :: lexer.tokens, count := lexer.count + 1 }

def insertAt (lexer : Lexer) (slot : Nat) (token : Token) : Lexer :=
  { lexer with
    tokens := lexer.tokens.insertIdx (lexer.count - slot) token, count := lexer.count + 1 }

def candidate (lexer : Lexer) : Option KeyCandidate :=
  match lexer.flowCandidates with
  | [] => lexer.blockCandidate
  | candidate :: _ => candidate

def setCandidate (lexer : Lexer) (candidate : Option KeyCandidate) : Lexer :=
  match lexer.flowCandidates with
  | [] => { lexer with blockCandidate := candidate }
  | _ :: outer => { lexer with flowCandidates := candidate :: outer }

def dropCandidate (lexer : Lexer) : Except Fault Lexer :=
  if lexer.candidate.any (·.required) then .error .keyWithoutColon
  else .ok (lexer.setCandidate none)

/-- Makes the token that starts here the candidate, if a key may start here. -/
def saveCandidate (lexer : Lexer) : Except Fault Lexer :=
  if lexer.keyAllowed then do
    let required := !lexer.inFlow && lexer.indent == lexer.cursor.column
    let saved ← lexer.dropCandidate
    return saved.setCandidate
      (some ⟨required, lexer.count, lexer.cursor.offset, lexer.cursor.line, lexer.cursor.column⟩)
  else .ok lexer

/-- A candidate whose colon can no longer follow. -/
def isStale (lexer : Lexer) (candidate : KeyCandidate) : Bool :=
  candidate.line < lexer.cursor.line || candidate.offset + maxKeyLength < lexer.cursor.offset

/-- A candidate after the check that its colon can still follow. -/
def refresh (lexer : Lexer) (candidate : Option KeyCandidate) :
    Except Fault (Option KeyCandidate) :=
  match candidate with
  | none => .ok none
  | some candidate =>
      if lexer.isStale candidate then
        if candidate.required then .error .keyWithoutColon else .ok none
      else .ok (some candidate)

def dropStaleCandidates (lexer : Lexer) : Except Fault Lexer := do
  let blockCandidate ← lexer.refresh lexer.blockCandidate
  let flowCandidates ← lexer.flowCandidates.mapM lexer.refresh
  return { lexer with blockCandidate, flowCandidates }

/-- Opens a block collection at a column right of the innermost one, with a token behind the first
`slot` tokens. -/
def openBlock (lexer : Lexer) (column slot : Nat) (token : Token) : Lexer :=
  if lexer.indent < column then
    { lexer.insertAt slot token with
      indent := column, outerIndents := lexer.indent :: lexer.outerIndents }
  else lexer

/-- Ends the block collections right of a column, given the columns that are open. -/
def closeBlocks (column : Int) : List Int → Lexer → Lexer
  | [], lexer => lexer
  | outer :: others, lexer =>
      if column < lexer.indent then
        closeBlocks column others
          { lexer.push .blockEnd with indent := outer, outerIndents := others }
      else lexer

def closeBlocksTo (lexer : Lexer) (column : Int) : Lexer :=
  if lexer.inFlow then lexer else closeBlocks column lexer.outerIndents lexer

def forward (lexer : Lexer) (places : Nat) : Lexer :=
  { lexer with cursor := lexer.cursor.forward places }

/-! ## Between tokens -/

def byteOrderMark : Char := '\uFEFF'

/-- Skips blanks, comments and line breaks.  Outside of flow collections a tab is skipped only
where no key may start, and a new line allows a key. -/
def skipToToken : Nat → Lexer → Lexer
  | 0, lexer => lexer
  | fuel + 1, lexer =>
      let cursor := lexer.cursor
      let cursor :=
        if cursor.column == 0 && cursor.head? == some byteOrderMark then cursor.forward 1
        else cursor
      let tabs := lexer.inFlow || !lexer.keyAllowed
      let cursor := cursor.skipWhile fun c => c == ' ' || (tabs && c == '\t')
      let cursor :=
        if cursor.head? = some '#' then cursor.skipWhile fun c => !isBreak c else cursor
      if cursor.head?.any isBreak then
        skipToToken fuel
          { lexer with
            cursor := cursor.readBreak.2, keyAllowed := lexer.keyAllowed || !lexer.inFlow }
      else { lexer with cursor }

/-! ## Tokens -/

def atTopLevel (lexer : Lexer) : Except Fault Lexer := do
  let lexer ← (lexer.closeBlocksTo (-1)).dropCandidate
  return { lexer with keyAllowed := false }

def lexEnd (lexer : Lexer) : Except Fault (List Token) :=
  lexer.atTopLevel.map fun lexer => lexer.tokens.reverse

def lexDirective (lexer : Lexer) : Except Fault Lexer := do
  let lexer ← lexer.atTopLevel
  let (token, cursor) ← lexer.cursor.readDirective
  return { lexer.push token with cursor }

def lexDocumentMark (lexer : Lexer) (token : Token) : Except Fault Lexer := do
  let lexer ← lexer.atTopLevel
  return (lexer.push token).forward 3

def lexFlowStart (lexer : Lexer) (token : Token) : Except Fault Lexer := do
  let lexer ← lexer.saveCandidate
  return { (lexer.push token).forward 1 with
    keyAllowed := true, flowCandidates := none :: lexer.flowCandidates }

def lexFlowEnd (lexer : Lexer) (token : Token) : Except Fault Lexer := do
  let lexer ← lexer.dropCandidate
  return { (lexer.push token).forward 1 with
    keyAllowed := false, flowCandidates := lexer.flowCandidates.drop 1 }

def lexFlowEntry (lexer : Lexer) : Except Fault Lexer := do
  let lexer ← lexer.dropCandidate
  return { (lexer.push .flowEntry).forward 1 with keyAllowed := true }

/-- Opens a block collection here, outside of flow collections, where a key may start. -/
def openBlockHere (lexer : Lexer) (token : Token) : Except Fault Lexer :=
  if lexer.inFlow then .ok lexer
  else if lexer.keyAllowed then .ok (lexer.openBlock lexer.cursor.column lexer.count token)
  else .error .misplacedIndicator

def lexBlockEntry (lexer : Lexer) : Except Fault Lexer := do
  let lexer ← lexer.openBlockHere .blockSequenceStart
  let lexer ← lexer.dropCandidate
  return { (lexer.push .blockEntry).forward 1 with keyAllowed := true }

def lexKey (lexer : Lexer) : Except Fault Lexer := do
  let lexer ← lexer.openBlockHere .blockMappingStart
  let lexer ← lexer.dropCandidate
  return { (lexer.push .key).forward 1 with keyAllowed := !lexer.inFlow }

/-- A colon makes the candidate a key; without candidate it follows a marked key. -/
def lexValue (lexer : Lexer) : Except Fault Lexer :=
  match lexer.candidate with
  | some candidate =>
      let lexer := lexer.insertAt candidate.slot .key
      let lexer :=
        if lexer.inFlow then lexer
        else lexer.openBlock candidate.column candidate.slot .blockMappingStart
      let lexer := lexer.setCandidate none
      .ok { (lexer.push .value).forward 1 with keyAllowed := false }
  | none => do
      let lexer ← lexer.openBlockHere .blockMappingStart
      return { (lexer.push .value).forward 1 with keyAllowed := !lexer.inFlow }

def lexAnchor (lexer : Lexer) (token : List Char → Token) : Except Fault Lexer := do
  let lexer ← lexer.saveCandidate
  let (name, cursor) ← (lexer.cursor.forward 1).readAnchor
  return { lexer.push (token name) with cursor, keyAllowed := false }

def lexTag (lexer : Lexer) : Except Fault Lexer := do
  let lexer ← lexer.saveCandidate
  let (token, cursor) ← lexer.cursor.readTag lexer.inFlow
  return { lexer.push token with cursor, keyAllowed := false }

def lexBlockScalar (lexer : Lexer) (folded : Bool) : Except Fault Lexer := do
  let lexer ← lexer.dropCandidate
  let (text, cursor) ← (lexer.cursor.forward 1).readBlock folded lexer.indent
  return { lexer.push (.scalar text false) with cursor, keyAllowed := true }

def lexQuoted (lexer : Lexer) (quote : Char) : Except Fault Lexer := do
  let lexer ← lexer.saveCandidate
  let (text, cursor) ← lexer.cursor.readQuoted quote
  return { lexer.push (.scalar text false) with cursor, keyAllowed := false }

def lexPlain (lexer : Lexer) : Except Fault Lexer := do
  let lexer ← lexer.saveCandidate
  let scalar ← lexer.cursor.readPlain lexer.inFlow (lexer.indent + 1)
  return { lexer.push (.scalar scalar.text true) with
    cursor := scalar.cursor, keyAllowed := scalar.crossedLine }

def isIndicator (c : Char) : Bool :=
  "-?:,[]\x7b\x7d#&*!|>'\"%@\x60".toList.contains c

def startsPlain (lexer : Lexer) (c : Char) : Bool :=
  !isIndicator c ||
    (c == '-' && !(lexer.cursor.at? 1).any isBlank) ||
    (!lexer.inFlow && (c == '?' || c == ':') && !endsWord (lexer.cursor.at? 1))

def lexToken (lexer : Lexer) (c : Char) : Except Fault Lexer :=
  let standsAlone := endsWord (lexer.cursor.at? 1)
  if lexer.cursor.column = 0 ∧ c = '%' then lexer.lexDirective
  else if lexer.cursor.atMark '-' then lexer.lexDocumentMark .documentStart
  else if lexer.cursor.atMark '.' then lexer.lexDocumentMark .documentEnd
  else if c = '[' then lexer.lexFlowStart .flowSequenceStart
  else if c = '{' then lexer.lexFlowStart .flowMappingStart
  else if c = ']' then lexer.lexFlowEnd .flowSequenceEnd
  else if c = '}' then lexer.lexFlowEnd .flowMappingEnd
  else if c = ',' then lexer.lexFlowEntry
  else if c = '-' ∧ standsAlone then lexer.lexBlockEntry
  else if c = '?' ∧ (lexer.inFlow ∨ standsAlone) then lexer.lexKey
  else if c = ':' ∧ (lexer.inFlow ∨ standsAlone) then lexer.lexValue
  else if c = '*' then lexer.lexAnchor .alias
  else if c = '&' then lexer.lexAnchor .anchor
  else if c = '!' then lexer.lexTag
  else if c = '|' ∧ !lexer.inFlow then lexer.lexBlockScalar false
  else if c = '>' ∧ !lexer.inFlow then lexer.lexBlockScalar true
  else if c = '\'' ∨ c = '"' then lexer.lexQuoted c
  else if isBlank c then .error .unexpectedCharacter
  else if lexer.startsPlain c then lexer.lexPlain
  else .error .unexpectedCharacter

/-- All tokens from a place on.  Each one takes a character at least, so a fuel above the number of
characters suffices for the tokens and for what stands between two of them. -/
def lexFrom : Nat → Lexer → Except Fault (List Token)
  | 0, lexer => lexer.lexEnd
  | fuel + 1, lexer => do
      let lexer := skipToToken (fuel + 1) lexer
      let lexer ← lexer.dropStaleCandidates
      let lexer := lexer.closeBlocksTo lexer.cursor.column
      match lexer.cursor.head? with
      | none => lexer.lexEnd
      | some c => lexFrom fuel (← lexer.lexToken c)

end Lexer

def tokens (text : List Char) : Except Fault (List Token) :=
  if text.all isPrintable then Lexer.lexFrom (text.length + 1) (Lexer.start text)
  else .error .unprintable

end LayeredConfig.Yaml
