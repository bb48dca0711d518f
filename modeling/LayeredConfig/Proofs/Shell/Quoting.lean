import LayeredConfig.Proofs.Access
import LayeredConfig.Session
import Mathlib.Tactic.SplitIfs

/-!
# Quoted words

Whatever words are quoted, splitting the text gives these words again: inside of single quotes no
character separates words, begins a comment or protects another one.  So arguments may be given as
a list or as their quoted text.
-/

set_option autoImplicit false

namespace LayeredConfig

namespace Shell

variable (word rest : List Char)

theorem wordsFrom_open : wordsFrom .between [] ('\'' :: rest) = wordsFrom .single [] rest := rfl

theorem wordsFrom_close : wordsFrom .single word ('\'' :: rest) = wordsFrom .word word rest := by
  simp only [wordsFrom, effect, ↓reduceIte, List.append_nil]

/-- A quoted character is added to the word, and the quotes stay open. -/
theorem wordsFrom_quoteChar (c : Char) :
    wordsFrom .single word (quoteChar c ++ rest) = wordsFrom .single (word ++ [c]) rest := by
  unfold quoteChar
  split_ifs with quote
  · subst quote
    simp [wordsFrom, effect, wordEffect, isSeparator]
  · simp only [List.singleton_append, wordsFrom, effect, if_neg quote]

theorem wordsFrom_quoteChars (text : List Char) :
    wordsFrom .single word (text.flatMap quoteChar ++ rest) =
      wordsFrom .single (word ++ text) rest := by
  induction text generalizing word with
  | nil => rw [List.flatMap_nil, List.nil_append, List.append_nil]
  | cons c text ih =>
      rw [List.flatMap_cons, List.append_assoc, wordsFrom_quoteChar, ih, List.append_assoc,
        List.singleton_append]

theorem wordsFrom_quoteWord :
    wordsFrom .between [] (quoteWord word ++ rest) = wordsFrom .word word rest := by
  rw [quoteWord, List.cons_append, wordsFrom_open, List.append_assoc, wordsFrom_quoteChars,
    List.nil_append, List.singleton_append, wordsFrom_close]

/-- The space after a word ends it. -/
theorem wordsFrom_space :
    wordsFrom .word word (' ' :: rest) = (wordsFrom .between [] rest).map (word :: ·) := rfl

theorem wordsFrom_quoteWords (words : List (List Char)) :
    wordsFrom .between [] (quoteWords words) = some words := by
  match words with
  | [] => rfl
  | [word] =>
      rw [quoteWords, ← List.append_nil (quoteWord word), wordsFrom_quoteWord]
      rfl
  | word :: next :: others =>
      rw [quoteWords, wordsFrom_quoteWord, wordsFrom_space, wordsFrom_quoteWords (next :: others)]
      rfl

theorem words?_quote (words : List String) : words? (quote words) = some words := by
  rw [words?, quote, String.toList_ofList, wordsFrom_quoteWords, Option.map_some, List.map_map,
    String.ofList_comp_toList, List.map_id]

end Shell

namespace Session

variable {session : Session} {id : RequestId} {run : RunConfig}

/-- The arguments of a request are the same whether a list of texts stands under the key or their
quoted text: these texts, whatever is in them. -/
theorem arguments_of_quoted (there : session.store.run? id = some run) {key : String}
    {words : List String}
    (given : Mapping.get? run.document key = some (.text (Shell.quote words)) ∨
      Mapping.get? run.document key = some (.list (words.map .text))) :
    session.step (.getArguments id key) = (.ok (.texts? (some words)), session) := by
  rw [step_getArguments there]
  rcases given with asText | asList
  · rw [Document.arguments?_of_text asText, Value.wordsInText, Shell.words?_quote]
    rfl
  · rw [Document.arguments?_of_list asList, Value.map_envText_text]
    rfl

/-- Arguments that a shell would split, drop or read otherwise if they were not quoted. -/
def awkwardArguments : List String :=
  ["", "it's", "#no comment", "a  b\n\"c\" \\", "é$x😀", "'"]

def withArguments (arguments : Value) : Session where
  store := Store.empty.put ⟨"lint"⟩ ⟨Mapping.ofList [("ARGS", arguments)], ""⟩
  environment := ∅
  loader := ⟨.unreachable, usualBodyLimit, "/tmp"⟩
  tree := ⟨[], []⟩

theorem arguments_of_quoted_awkward :
    Shell.quote awkwardArguments =
        "'' 'it'\\''s' '#no comment' 'a  b\n\"c\" \\' 'é$x😀' ''\\'''" ∧
      ∀ given ∈ [Value.text (Shell.quote awkwardArguments), .list (awkwardArguments.map .text)],
        (withArguments given).store.run? ⟨"lint"⟩ = some ⟨Mapping.ofList [("ARGS", given)], ""⟩ ∧
          (withArguments given).step (.getArguments ⟨"lint"⟩ "ARGS") =
            (.ok (.texts? (some awkwardArguments)), withArguments given) := by
  refine ⟨by decide +kernel, fun given member => ?_⟩
  have stored : (withArguments given).store.run? ⟨"lint"⟩ =
      some ⟨Mapping.ofList [("ARGS", given)], ""⟩ :=
    Store.run?_put ..
  refine ⟨stored, arguments_of_quoted stored ?_⟩
  simp only [List.mem_cons, List.not_mem_nil, or_false] at member
  rcases member with rfl | rfl
  · exact .inl rfl
  · exact .inr rfl

end Session

end LayeredConfig
