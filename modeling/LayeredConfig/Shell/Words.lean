/-!
# Shell words

A command line split into words as a shell splits it.  Spaces, tabs and newlines separate words,
`#` at the start of a word hides the rest of the line, and quotes and backslashes keep characters
together.  Splitting fails when the text ends inside quotes or after a backslash.
-/

set_option autoImplicit false

namespace LayeredConfig.Shell

inductive Mode where
  | between
  | comment
  | word
  | escaped
  | single
  | double
  /-- After a backslash in double quotes. -/
  | doubleEscaped
  deriving DecidableEq, Repr

def isSeparator (c : Char) : Bool :=
  c == ' ' || c == '\t' || c == '\n'

def isProtected (c : Char) : Bool :=
  c == '$' || c == '\x60' || c == '"' || c == '\\'

/-- What one character does: the next mode, and the characters it adds to the word. -/
inductive Effect where
  /-- Goes on with the word after adding characters to it. -/
  | add (characters : List Char) (mode : Mode)
  /-- Ends the word. -/
  | finish
  /-- Stays outside of words. -/
  | skip (mode : Mode)
  deriving DecidableEq, Repr

def wordEffect (c : Char) : Effect :=
  if isSeparator c then .finish
  else if c = '\\' then .add [] .escaped
  else if c = '\'' then .add [] .single
  else if c = '"' then .add [] .double
  else .add [c] .word

def effect : Mode → Char → Effect
  | .between, c =>
      if isSeparator c then .skip .between
      else if c = '#' then .skip .comment
      else wordEffect c
  | .comment, c => if c = '\n' then .skip .between else .skip .comment
  | .word, c => wordEffect c
  | .escaped, c => .add (if c = '\n' then [] else [c]) .word
  | .single, c => if c = '\'' then .add [] .word else .add [c] .single
  | .double, c =>
      if c = '"' then .add [] .word
      else if c = '\\' then .add [] .doubleEscaped
      else .add [c] .double
  | .doubleEscaped, c =>
      .add (if c = '\n' then [] else if isProtected c then [c] else ['\\', c]) .double

/-- The words of the rest of a text; `word` holds the characters of the word begun. -/
def wordsFrom (mode : Mode) (word : List Char) : List Char → Option (List (List Char))
  | [] =>
      match mode with
      | .between | .comment => some []
      | .word => some [word]
      | .escaped | .single | .double | .doubleEscaped => none
  | c :: rest =>
      match effect mode c with
      | .add characters next => wordsFrom next (word ++ characters) rest
      | .finish => (wordsFrom .between [] rest).map (word :: ·)
      | .skip next => wordsFrom next [] rest

/-- The words of a text. -/
def words? (text : String) : Option (List String) :=
  (wordsFrom .between [] text.toList).map (·.map String.ofList)

/-- A character as it stands in single quotes: a quote closes them, stands after a backslash, and
opens them again. -/
def quoteChar (c : Char) : List Char :=
  if c = '\'' then ['\'', '\\', '\'', '\''] else [c]

def quoteWord (word : List Char) : List Char :=
  '\'' :: (word.flatMap quoteChar ++ ['\''])

def quoteWords : List (List Char) → List Char
  | [] => []
  | [word] => quoteWord word
  | word :: next :: others => quoteWord word ++ ' ' :: quoteWords (next :: others)

def quote (words : List String) : String :=
  String.ofList (quoteWords (words.map String.toList))

end LayeredConfig.Shell
