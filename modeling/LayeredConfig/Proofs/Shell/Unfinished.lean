import LayeredConfig.Shell.Words
import Mathlib.Tactic.SplitIfs

/-!
# Texts that are no command line

What can stand in a command line is said here without its reader: separators and comments between
the words, and in the words plain characters, pairs of a backslash and a character, and two kinds of
quoted parts.  A text cannot be split exactly when it ends inside of a quoted part or right after a
backslash.
-/

set_option autoImplicit false

namespace LayeredConfig.Shell

/-! ## Command lines -/

/-- A character that stands for itself in a word. -/
structure Plain (c : Char) : Prop where
  noSeparator : isSeparator c = false
  noBackslash : c ≠ '\\'
  noSingle : c ≠ '\''
  noDouble : c ≠ '"'

/-- What can stand behind an open double quote: pairs of a backslash and any character, and
characters that are neither a backslash nor the closing quote. -/
inductive InDouble : List Char → Prop where
  | start : InDouble []
  | plain {body : List Char} {c : Char} (inside : InDouble body) (noQuote : c ≠ '"')
      (noBackslash : c ≠ '\\') : InDouble (body ++ [c])
  | pair {body : List Char} (inside : InDouble body) (c : Char) : InDouble (body ++ ['\\', c])

/-- A text that ends outside of quotes and of comments and not after a backslash, at the end of a
word or between the words. -/
inductive Closed : Bool → List Char → Prop where
  | start : Closed false []
  | separator {inWord : Bool} {text : List Char} {c : Char} (closed : Closed inWord text)
      (separates : isSeparator c = true) : Closed false (text ++ [c])
  | comment {text body : List Char} (closed : Closed false text) (oneLine : '\n' ∉ body) :
      Closed false (text ++ '#' :: (body ++ ['\n']))
  | plain {inWord : Bool} {text : List Char} {c : Char} (closed : Closed inWord text)
      (plain : Plain c) (inside : inWord = false → c ≠ '#') : Closed true (text ++ [c])
  | pair {inWord : Bool} {text : List Char} (closed : Closed inWord text) (c : Char) :
      Closed true (text ++ ['\\', c])
  | single {inWord : Bool} {text body : List Char} (closed : Closed inWord text)
      (inside : '\'' ∉ body) : Closed true (text ++ '\'' :: (body ++ ['\'']))
  | double {inWord : Bool} {text body : List Char} (closed : Closed inWord text)
      (inside : InDouble body) : Closed true (text ++ '"' :: (body ++ ['"']))

/-- A text that ends inside of a quoted part or right after a backslash. -/
inductive Unfinished : List Char → Prop where
  | backslash {inWord : Bool} {text : List Char} (closed : Closed inWord text) :
      Unfinished (text ++ ['\\'])
  | single {inWord : Bool} {text body : List Char} (closed : Closed inWord text)
      (inside : '\'' ∉ body) : Unfinished (text ++ '\'' :: body)
  | double {inWord : Bool} {text body : List Char} (closed : Closed inWord text)
      (inside : InDouble body) : Unfinished (text ++ '"' :: body)
  | doubleBackslash {inWord : Bool} {text body : List Char} (closed : Closed inWord text)
      (inside : InDouble body) : Unfinished (text ++ '"' :: (body ++ ['\\']))

/-! ## The mode at the end of a text -/

def Effect.mode : Effect → Mode
  | .add _ mode => mode
  | .finish => .between
  | .skip mode => mode

/-- The mode in which a text leaves the reader. -/
def modeAfter (mode : Mode) : List Char → Mode
  | [] => mode
  | c :: rest => modeAfter (effect mode c).mode rest

theorem modeAfter_append (mode : Mode) (first second : List Char) :
    modeAfter mode (first ++ second) = modeAfter (modeAfter mode first) second := by
  induction first generalizing mode with
  | nil => rfl
  | cons c first ih => exact ih (effect mode c).mode

/-- The modes in which a text must not end. -/
def Mode.Open : Mode → Prop
  | .escaped | .single | .double | .doubleEscaped => True
  | .between | .comment | .word => False

theorem wordsFrom_eq_none_iff {mode : Mode} {word text : List Char} :
    wordsFrom mode word text = none ↔ (modeAfter mode text).Open := by
  induction text generalizing mode word with
  | nil => cases mode <;> simp [wordsFrom, modeAfter, Mode.Open]
  | cons c rest ih =>
      rw [wordsFrom, modeAfter]
      cases effect mode c with
      | add characters next => exact ih
      | finish => exact Option.map_eq_none_iff.trans ih
      | skip next => exact ih

/-! ## What a mode says of the text before it -/

def Stands (text : List Char) : Mode → Prop
  | .between => Closed false text
  | .word => Closed true text
  | .comment => ∃ before body, Closed false before ∧ '\n' ∉ body ∧ text = before ++ '#' :: body
  | .escaped => ∃ inWord before, Closed inWord before ∧ text = before ++ ['\\']
  | .single => ∃ inWord before body, Closed inWord before ∧ '\'' ∉ body ∧
      text = before ++ '\'' :: body
  | .double => ∃ inWord before body, Closed inWord before ∧ InDouble body ∧
      text = before ++ '"' :: body
  | .doubleEscaped => ∃ inWord before body, Closed inWord before ∧ InDouble body ∧
      text = before ++ '"' :: (body ++ ['\\'])

theorem not_mem_append_singleton {c d : Char} {body : List Char} (absent : c ∉ body)
    (other : d ≠ c) : c ∉ body ++ [d] := by
  rw [List.mem_append, List.mem_singleton]
  rintro (inBody | rfl)
  · exact absent inBody
  · exact other rfl

theorem stands_wordEffect {inWord : Bool} {text : List Char} {c : Char}
    (closed : Closed inWord text) (inside : inWord = false → c ≠ '#') :
    Stands (text ++ [c]) (wordEffect c).mode := by
  unfold wordEffect
  split_ifs with separates backslash single double
  · exact .separator closed separates
  · exact ⟨inWord, text, closed, by rw [backslash]⟩
  · exact ⟨inWord, text, [], closed, List.not_mem_nil, by rw [single]⟩
  · exact ⟨inWord, text, [], closed, .start, by rw [double]⟩
  · exact .plain closed ⟨Bool.eq_false_iff.mpr separates, backslash, single, double⟩ inside

/-- One character more leads to the mode that says the same of the longer text. -/
theorem stands_effect {text : List Char} {mode : Mode} (stands : Stands text mode) (c : Char) :
    Stands (text ++ [c]) (effect mode c).mode := by
  cases mode with
  | between =>
      unfold effect
      simp only
      split_ifs with separates hash
      · exact .separator stands separates
      · exact ⟨text, [], stands, List.not_mem_nil, by rw [hash]⟩
      · exact stands_wordEffect stands fun _ => hash
  | word => exact stands_wordEffect stands nofun
  | comment =>
      obtain ⟨before, body, closed, oneLine, rfl⟩ := stands
      unfold effect
      simp only
      split_ifs with newline
      · subst newline
        rw [List.append_assoc, List.cons_append]
        exact .comment closed oneLine
      · refine ⟨before, body ++ [c], closed, not_mem_append_singleton oneLine newline, ?_⟩
        rw [List.append_assoc, List.cons_append]
  | escaped =>
      obtain ⟨inWord, before, closed, rfl⟩ := stands
      rw [List.append_assoc]
      exact .pair closed c
  | single =>
      obtain ⟨inWord, before, body, closed, inside, rfl⟩ := stands
      unfold effect
      simp only
      split_ifs with quote
      · subst quote
        rw [List.append_assoc, List.cons_append]
        exact .single closed inside
      · refine ⟨inWord, before, body ++ [c], closed, not_mem_append_singleton inside quote, ?_⟩
        rw [List.append_assoc, List.cons_append]
  | double =>
      obtain ⟨inWord, before, body, closed, inside, rfl⟩ := stands
      unfold effect
      simp only
      split_ifs with quote backslash
      · subst quote
        rw [List.append_assoc, List.cons_append]
        exact .double closed inside
      · refine ⟨inWord, before, body, closed, inside, ?_⟩
        rw [List.append_assoc, List.cons_append, backslash]
      · refine ⟨inWord, before, body ++ [c], closed, .plain inside quote backslash, ?_⟩
        rw [List.append_assoc, List.cons_append]
  | doubleEscaped =>
      obtain ⟨inWord, before, body, closed, inside, rfl⟩ := stands
      refine ⟨inWord, before, body ++ ['\\', c], closed, .pair inside c, ?_⟩
      rw [List.append_assoc, List.cons_append, List.append_assoc, List.singleton_append]

theorem stands_modeAfter {text : List Char} {mode : Mode} (stands : Stands text mode)
    (more : List Char) : Stands (text ++ more) (modeAfter mode more) := by
  induction more generalizing text mode with
  | nil =>
      rw [List.append_nil]
      exact stands
  | cons c more ih =>
      rw [← List.singleton_append, ← List.append_assoc]
      exact ih (stands_effect stands c)

/-! ## The mode behind a command line -/

theorem modeAfter_comment {body : List Char} (oneLine : '\n' ∉ body) :
    modeAfter .comment body = .comment := by
  induction body with
  | nil => rfl
  | cons c body ih =>
      obtain ⟨other, further⟩ := not_or.mp (mt List.mem_cons.mpr oneLine)
      rw [modeAfter, effect, if_neg (Ne.symm other)]
      exact ih further

theorem modeAfter_single {body : List Char} (inside : '\'' ∉ body) :
    modeAfter .single body = .single := by
  induction body with
  | nil => rfl
  | cons c body ih =>
      obtain ⟨other, further⟩ := not_or.mp (mt List.mem_cons.mpr inside)
      rw [modeAfter, effect, if_neg (Ne.symm other)]
      exact ih further

theorem modeAfter_double {body : List Char} (inside : InDouble body) :
    modeAfter .double body = .double := by
  induction inside with
  | start => rfl
  | plain inside noQuote noBackslash ih =>
      rw [modeAfter_append, ih, modeAfter, effect, if_neg noQuote, if_neg noBackslash]
      rfl
  | pair inside c ih =>
      rw [modeAfter_append, ih]
      rfl

/-- The mode at the end of a word or between the words. -/
def outside : Bool → Mode
  | true => .word
  | false => .between

theorem wordEffect_plain {c : Char} (plain : Plain c) : wordEffect c = .add [c] .word := by
  have noSeparator : ¬ isSeparator c = true := Bool.eq_false_iff.mp plain.noSeparator
  rw [wordEffect, if_neg noSeparator, if_neg plain.noBackslash, if_neg plain.noSingle,
    if_neg plain.noDouble]

/-- But for a hash, which begins a comment between words, it makes no difference whether a word has
begun. -/
theorem mode_effect_outside {inWord : Bool} {c : Char} (inside : inWord = false → c ≠ '#') :
    (effect (outside inWord) c).mode = (wordEffect c).mode := by
  cases inWord with
  | true => rfl
  | false =>
      simp only [outside, effect, if_neg (inside rfl)]
      split_ifs with separates
      · rw [wordEffect, if_pos separates]
        rfl
      · rfl

theorem modeAfter_outside (inWord : Bool) (rest : List Char) :
    modeAfter (outside inWord) ('\\' :: rest) = modeAfter .escaped rest ∧
      modeAfter (outside inWord) ('\'' :: rest) = modeAfter .single rest ∧
      modeAfter (outside inWord) ('"' :: rest) = modeAfter .double rest := by
  cases inWord <;> exact ⟨rfl, rfl, rfl⟩

/-- A command line leaves the reader in a word or between the words. -/
theorem modeAfter_of_closed {inWord : Bool} {text : List Char} (closed : Closed inWord text) :
    modeAfter .between text = outside inWord := by
  induction closed with
  | start => rfl
  | @separator inWord text c closed separates ih =>
      have noHash : c ≠ '#' := by
        rintro rfl
        cases separates
      rw [modeAfter_append, ih, modeAfter, mode_effect_outside fun _ => noHash, wordEffect,
        if_pos separates]
      rfl
  | @comment text body closed oneLine ih =>
      have opened : modeAfter (outside false) ('#' :: (body ++ ['\n'])) =
          modeAfter .comment (body ++ ['\n']) := rfl
      rw [modeAfter_append, ih, opened, modeAfter_append, modeAfter_comment oneLine]
      rfl
  | plain closed plain inside ih =>
      rw [modeAfter_append, ih, modeAfter, mode_effect_outside inside, wordEffect_plain plain]
      rfl
  | @pair inWord text closed c ih =>
      rw [modeAfter_append, ih, (modeAfter_outside inWord _).1]
      rfl
  | @single inWord text body closed inside ih =>
      rw [modeAfter_append, ih, (modeAfter_outside inWord _).2.1, modeAfter_append,
        modeAfter_single inside]
      rfl
  | @double inWord text body closed inside ih =>
      rw [modeAfter_append, ih, (modeAfter_outside inWord _).2.2, modeAfter_append,
        modeAfter_double inside]
      rfl

theorem open_of_unfinished {text : List Char} (unfinished : Unfinished text) :
    (modeAfter .between text).Open := by
  cases unfinished with
  | @backslash inWord text closed =>
      rw [modeAfter_append, modeAfter_of_closed closed, (modeAfter_outside inWord _).1]
      trivial
  | @single inWord text body closed inside =>
      rw [modeAfter_append, modeAfter_of_closed closed, (modeAfter_outside inWord _).2.1,
        modeAfter_single inside]
      trivial
  | @double inWord text body closed inside =>
      rw [modeAfter_append, modeAfter_of_closed closed, (modeAfter_outside inWord _).2.2,
        modeAfter_double inside]
      trivial
  | @doubleBackslash inWord text body closed inside =>
      rw [modeAfter_append, modeAfter_of_closed closed, (modeAfter_outside inWord _).2.2,
        modeAfter_append, modeAfter_double inside]
      trivial

theorem unfinished_of_open {text : List Char} {mode : Mode} (stands : Stands text mode)
    (opened : mode.Open) : Unfinished text := by
  cases mode with
  | between => exact absurd opened id
  | comment => exact absurd opened id
  | word => exact absurd opened id
  | escaped =>
      obtain ⟨inWord, before, closed, rfl⟩ := stands
      exact .backslash closed
  | single =>
      obtain ⟨inWord, before, body, closed, inside, rfl⟩ := stands
      exact .single closed inside
  | double =>
      obtain ⟨inWord, before, body, closed, inside, rfl⟩ := stands
      exact .double closed inside
  | doubleEscaped =>
      obtain ⟨inWord, before, body, closed, inside, rfl⟩ := stands
      exact .doubleBackslash closed inside

/-- There are no words in a text exactly when it ends inside of quotes or after a backslash. -/
theorem words?_eq_none_iff {text : String} : words? text = none ↔ Unfinished text.toList := by
  rw [words?, Option.map_eq_none_iff, wordsFrom_eq_none_iff]
  have starts : Stands [] .between := Closed.start
  exact ⟨unfinished_of_open (stands_modeAfter starts text.toList), open_of_unfinished⟩

end LayeredConfig.Shell
