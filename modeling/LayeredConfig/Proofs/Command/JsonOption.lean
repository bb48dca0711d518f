import Mathlib.Tactic.SplitIfs
import LayeredConfig.Command.Arguments

/-!
# The option that asks for JSON

The option `--json` changes the format of an environment and nothing else.  A command line with it
amounts to the same command without it, on plain lines.  `Tracks` compares an argument for two
readings that differ in this option only: either both are refused, or they still differ in it only.
-/

set_option autoImplicit false

namespace LayeredConfig

namespace Command

/-! ## Readings without JSON -/

namespace Reading

/-- A reading as it would be if JSON had not been asked for. -/
def plain (reading : Reading) : Reading :=
  { reading with options := { reading.options with json := false } }

/-- JSON is asked for only behind the name of a command. -/
def AskedInPlace (reading : Reading) : Prop :=
  reading.command = none → reading.options.json = false

/-- What no argument takes back. -/
structure Onward (before after : Reading) : Prop where
  command : before.command.isSome = true → after.command = before.command
  json : before.command.isSome = true → before.options.json = true → after.options.json = true
  words : after.words = [] → before.words = []

/-- The results of one argument for a reading and for the reading without JSON: the same refusal,
or readings that differ as those before. -/
inductive Tracks (before : Reading) : Except Stop Reading → Except Stop Reading → Prop where
  | refused (stop : Stop) : Tracks before (.error stop) (.error stop)
  | ok {after : Reading} (onward : Onward before after) :
      Tracks before (.ok after) (.ok after.plain)

theorem plain_of_json {reading : Reading} (unasked : reading.options.json = false) :
    reading.plain = reading := by
  obtain ⟨command, options, pending, onlyWords, words⟩ := reading
  obtain ⟨workspace, settings, verbose, unredacted, json⟩ := options
  cases unasked
  rfl

theorem Onward.of_eq {before after : Reading} (command : after.command = before.command)
    (json : after.options.json = before.options.json) (words : after.words = before.words) :
    Onward before after where
  command _ := command
  json _ asked := json.trans asked
  words none := words.symm.trans none

theorem Onward.trans {first second third : Reading} (one : Onward first second)
    (two : Onward second third) : Onward first third where
  command named := by
    have same := one.command named
    exact (two.command (same ▸ named)).trans same
  json named asked := two.json (one.command named ▸ named) (one.json named asked)
  words none := one.words (two.words none)

theorem Tracks.above {before middle : Reading} {result plainResult : Except Stop Reading}
    (tracks : Tracks middle result plainResult) (onward : Onward before middle) :
    Tracks before result plainResult := by
  cases tracks with
  | refused stop => exact .refused stop
  | ok further => exact .ok (onward.trans further)

theorem Tracks.guarded {before after : Reading} {refuses : Prop} {decides : Decidable refuses}
    {stop : Stop} (onward : Onward before after) :
    Tracks before (if refuses then .error stop else .ok after)
      (if refuses then .error stop else .ok after.plain) := by
  split_ifs
  · exact .refused stop
  · exact .ok onward

/-! ## One argument -/

theorem tracks_takeValue (reading : Reading) (option : ValueOption) (value : String) :
    Tracks reading (reading.takeValue option value) (reading.plain.takeValue option value) := by
  cases option with
  | workspace => exact .guarded (.of_eq rfl rfl rfl)
  | set =>
      simp only [takeValue]
      cases setting? value with
      | none => exact .refused .usage
      | some setting => exact .ok (.of_eq rfl rfl rfl)

theorem tracks_takeFlag (reading : Reading) (flag : Flag) (other : flag ≠ .json) :
    Tracks reading (reading.takeFlag flag) (reading.plain.takeFlag flag) := by
  cases flag with
  | json => exact absurd rfl other
  | verbose => exact .guarded (.of_eq rfl rfl rfl)
  | unredacted => exact .guarded (.of_eq rfl rfl rfl)
  | version => exact .refused _
  | help => exact .refused .help

theorem tracks_letterValue (reading : Reading) (option : ValueOption) (rest : List Char) :
    Tracks reading
      (match rest with
        | [] => .ok { reading with pending := some option }
        | '=' :: value => reading.takeValue option (String.ofList value)
        | value => reading.takeValue option (String.ofList value))
      (match rest with
        | [] => .ok { reading.plain with pending := some option }
        | '=' :: value => reading.plain.takeValue option (String.ofList value)
        | value => reading.plain.takeValue option (String.ofList value)) := by
  split
  · exact .ok (.of_eq rfl rfl rfl)
  · exact tracks_takeValue ..
  · exact tracks_takeValue ..

/-- An option without value, and the letters behind it. -/
theorem tracks_letterFlag {reading : Reading} {rest : List Char}
    {result plainResult : Except Stop Reading} :
    Tracks reading result plainResult →
    (∀ after : Reading, Tracks after (after.takeLetters rest) (after.plain.takeLetters rest)) →
      Tracks reading
        (match result with
          | .ok after => after.takeLetters rest
          | .error stop => .error stop)
        (match plainResult with
          | .ok after => after.takeLetters rest
          | .error stop => .error stop) := by
  intro tracks further
  cases tracks with
  | refused stop => exact .refused stop
  | @ok after onward => exact (further after).above onward

/-- By induction on the letters, for any reading: no letter asks for JSON. -/
theorem tracks_takeLetters (reading : Reading) (letters : List Char) :
    Tracks reading (reading.takeLetters letters) (reading.plain.takeLetters letters) := by
  induction letters generalizing reading with
  | nil => exact .ok (.of_eq rfl rfl rfl)
  | cons letter rest ih =>
      simp only [takeLetters]
      split_ifs
      · exact tracks_letterValue reading .workspace rest
      · exact tracks_letterValue reading .set rest
      · exact tracks_letterFlag (tracks_takeFlag reading .verbose nofun) ih
      · exact tracks_letterFlag (tracks_takeFlag reading .version nofun) ih
      · exact tracks_letterFlag (tracks_takeFlag reading .help nofun) ih
      · exact .refused .usage

theorem tracks_takeWordOption (reading : Reading) {name : String} {value : Option String}
    (other : name = "json" → value.isSome = true) :
    Tracks reading (reading.takeWordOption name value)
      (reading.plain.takeWordOption name value) := by
  cases value with
  | some value =>
      simp only [takeWordOption, Option.isSome_some, ↓reduceIte]
      split_ifs
      · exact tracks_takeValue ..
      · exact tracks_takeValue ..
      all_goals exact .refused .usage
  | none =>
      simp only [takeWordOption, Option.isSome_none, Bool.false_eq_true, ↓reduceIte]
      split_ifs with _ _ _ _ named
      · exact .ok (.of_eq rfl rfl rfl)
      · exact .ok (.of_eq rfl rfl rfl)
      · exact tracks_takeFlag reading .verbose nofun
      · exact tracks_takeFlag reading .unredacted nofun
      · exact nomatch other named
      · exact tracks_takeFlag reading .version nofun
      · exact tracks_takeFlag reading .help nofun
      · exact .refused .usage

theorem tracks_takeWord {reading : Reading} (inPlace : reading.AskedInPlace) (word : String) :
    Tracks reading (reading.takeWord word) (reading.plain.takeWord word) := by
  cases named : reading.command with
  | some command =>
      have plainNamed : reading.plain.command = some command := named
      rw [takeWord, takeWord, named, plainNamed]
      exact .ok ⟨fun _ => named.symm, fun _ => id, fun none => by simp at none⟩
  | none =>
      -- No command is named yet, so JSON is not asked for and the two readings are one.
      have unnamed : ¬ reading.command.isSome = true := by simp [named]
      rw [plain_of_json (inPlace named), takeWord, named]
      simp only
      split
      · exact .refused .usage
      · split
        · exact .ok ⟨fun absent => absurd absent unnamed, fun absent => absurd absent unnamed, id⟩
        · exact .refused _

theorem asksJson_of_option {argument : String} {option : List Char}
    (spelled : argument.toList = '-' :: '-' :: option)
    (named : String.ofList (option.takeWhile (· ≠ '=')) = "json")
    (bare : option.drop (option.takeWhile (· ≠ '=')).length = []) : argument = "--json" := by
  have whole := List.prefix_iff_eq_append.mp (List.takeWhile_prefix (l := option) (· ≠ '='))
  rw [bare, List.append_nil] at whole
  rw [whole] at named
  rw [← String.toList_inj, spelled, ← String.toList_ofList (l := option), named]
  rfl

theorem tracks_step {reading : Reading} (inPlace : reading.AskedInPlace) {argument : String}
    (other : argument ≠ "--json" ∨ reading.onlyWords = true) :
    Tracks reading (reading.step argument) (reading.plain.step argument) := by
  have sameMode : reading.plain.onlyWords = reading.onlyWords := rfl
  have samePending : reading.plain.pending = reading.pending := rfl
  rw [step, step, sameMode, samePending]
  split_ifs with words
  · exact tracks_takeWord inPlace argument
  · split
    · exact .refused .usage
    · exact tracks_takeValue ..
    · exact .ok (.of_eq rfl rfl rfl)
    · rename_i option _ spelled _
      refine tracks_takeWordOption reading fun named => ?_
      cases rest : option.drop (option.takeWhile (· ≠ '=')).length with
      | nil => exact absurd (asksJson_of_option spelled named rest) (other.resolve_right words)
      | cons mark value => rfl
    · exact tracks_takeLetters ..
    · exact tracks_takeWord inPlace argument

section Step

variable {reading after : Reading}

theorem words_of_takeWord (words : reading.onlyWords = true) {word : String}
    (read : reading.takeWord word = .ok after) : after.words = reading.words ++ [word] := by
  rw [takeWord] at read
  cases named : reading.command with
  | some command =>
      rw [named] at read
      cases read
      rfl
  | none =>
      simp only [named, words, ↓reduceIte] at read
      cases read

/-- JSON is asked for behind the name of the command `env`, and once. -/
theorem asks_of_step (words : reading.onlyWords = false)
    (read : reading.step "--json" = .ok after) :
    reading.options.json = false ∧ reading.command.isSome = true ∧
      after = { reading with options := { reading.options with json := true } } := by
  have taken : reading.takeFlag .json = .ok after := by
    rw [step, words] at read
    cases waits : reading.pending with
    | some option =>
        rw [waits] at read
        cases read
    | none =>
        rw [waits] at read
        exact read
  simp only [takeFlag] at taken
  split at taken
  · cases taken
  · rename_i allowed
    obtain ⟨first, named⟩ := not_or.mp allowed
    obtain ⟨command, is, -⟩ := Option.map_eq_some_iff.mp (Decidable.not_not.mp named)
    cases taken
    exact ⟨Bool.eq_false_iff.mpr first, Option.isSome_of_eq_some is, rfl⟩

variable (inPlace : reading.AskedInPlace) {argument : String}

include inPlace

/-- What one argument does: it asks for JSON, which changes nothing else, or it does the same for
the reading without JSON.  In the second case `--json` can only be a word. -/
theorem step_cases (read : reading.step argument = .ok after) :
    Onward reading after ∧
      (argument = "--json" ∧ reading.options.json = false ∧ reading.command.isSome = true ∧
          after = { reading with options := { reading.options with json := true } } ∨
        reading.plain.step argument = .ok after.plain ∧
          (argument = "--json" → after.words ≠ [])) := by
  have tracked : argument ≠ "--json" ∨ reading.onlyWords = true →
      Onward reading after ∧ reading.plain.step argument = .ok after.plain := by
    intro other
    have tracks := tracks_step inPlace other
    rw [read] at tracks
    generalize reading.plain.step argument = plainResult at tracks ⊢
    cases tracks with
    | ok onward => exact ⟨onward, rfl⟩
  by_cases asks : argument = "--json"
  · subst asks
    rcases Bool.eq_false_or_eq_true reading.onlyWords with words | words
    · obtain ⟨onward, same⟩ := tracked (.inr words)
      refine ⟨onward, .inr ⟨same, fun _ none => ?_⟩⟩
      rw [step, words] at read
      simp [words_of_takeWord words read] at none
    · obtain ⟨first, named, rfl⟩ := asks_of_step words read
      exact ⟨⟨fun _ => rfl, fun _ _ => rfl, id⟩, .inl ⟨rfl, first, named, rfl⟩⟩
  · obtain ⟨onward, same⟩ := tracked (.inl asks)
    exact ⟨onward, .inr ⟨same, fun is => absurd is asks⟩⟩

omit inPlace in
/-- What does the same without JSON does not ask for it. -/
theorem unasked_of_step (unasked : reading.options.json = false)
    (read : reading.step argument = .ok after)
    (same : reading.plain.step argument = .ok after.plain) : after.options.json = false := by
  rw [plain_of_json unasked, read] at same
  rw [Except.ok.inj same]
  rfl

theorem askedInPlace_of_step (read : reading.step argument = .ok after) :
    after.AskedInPlace := by
  intro unnamed
  obtain ⟨onward, ⟨-, -, named, rfl⟩ | ⟨same, -⟩⟩ := step_cases inPlace read
  · rw [show reading.command = none from unnamed] at named
    cases named
  · cases named : reading.command with
    | some command =>
        rw [onward.command (by simp [named]), named] at unnamed
        cases unnamed
    | none => exact unasked_of_step (inPlace named) read same

end Step

/-! ## A row of arguments -/

section Row

variable {reading last : Reading} {arguments : List String}

theorem foldlM_step_cons {argument : String} :
    (argument :: arguments).foldlM step reading = .ok last ↔
      ∃ after, reading.step argument = .ok after ∧ arguments.foldlM step after = .ok last := by
  rw [List.foldlM_cons]
  generalize reading.step argument = result
  cases result with
  | error stop =>
      constructor
      · intro read
        cases read
      · rintro ⟨after, stopped, -⟩
        cases stopped
  | ok after =>
      refine ⟨fun read => ⟨after, rfl, read⟩, ?_⟩
      rintro ⟨_, ⟨⟩, read⟩
      exact read

variable (inPlace : reading.AskedInPlace) (read : arguments.foldlM step reading = .ok last)

include inPlace read

theorem words_of_run (none : last.words = []) : reading.words = [] := by
  induction arguments generalizing reading with
  | nil =>
      cases read
      exact none
  | cons argument arguments ih =>
      obtain ⟨after, first, more⟩ := foldlM_step_cons.mp read
      exact (step_cases inPlace first).1.words (ih (askedInPlace_of_step inPlace first) more)

/-- Once JSON is asked for, no argument behind asks for it. -/
theorem run_of_asked (asked : reading.options.json = true) :
    arguments.foldlM step reading.plain = .ok last.plain := by
  induction arguments generalizing reading with
  | nil =>
      cases read
      rfl
  | cons argument arguments ih =>
      obtain ⟨after, first, more⟩ := foldlM_step_cons.mp read
      have named : reading.command.isSome = true := by
        cases is : reading.command with
        | some command => rfl
        | none => exact absurd asked (by simp [inPlace is])
      have later := askedInPlace_of_step inPlace first
      obtain ⟨onward, ⟨-, unasked, -⟩ | ⟨same, -⟩⟩ := step_cases inPlace first
      · cases asked.symm.trans unasked
      · exact foldlM_step_cons.mpr
          ⟨after.plain, same, ih later more (onward.json named asked)⟩

/-- By induction on the arguments, as long as none has asked for JSON: the first one that does is
the first `--json` of all, for a word would be left at the end. -/
theorem run_erase_json (unasked : reading.options.json = false)
    (asked : last.options.json = true) (none : last.words = []) :
    (arguments.erase "--json").foldlM step reading = .ok last.plain := by
  induction arguments generalizing reading with
  | nil =>
      cases read
      cases asked.symm.trans unasked
  | cons argument arguments ih =>
      obtain ⟨after, first, more⟩ := foldlM_step_cons.mp read
      have later := askedInPlace_of_step inPlace first
      obtain ⟨-, ⟨rfl, -, -, rfl⟩ | ⟨same, word⟩⟩ := step_cases inPlace first
      · rw [List.erase_cons_head]
        have rest := run_of_asked later more rfl
        rwa [← plain_of_json unasked]
      · have other : argument ≠ "--json" := fun is => word is (words_of_run later more none)
        rw [List.erase_cons_tail (by simpa using other)]
        exact foldlM_step_cons.mpr
          ⟨after, first, ih later more (unasked_of_step unasked first same)⟩

end Row

/-! ## The end of a command line -/

theorem action_eq_environment {name : Name} {options : Options} {words : List String}
    {unredacted json : Bool}
    (shows : action name options words = .ok (.environment unredacted json)) :
    name = .env ∧ words = [] ∧ options.unredacted = unredacted ∧ options.json = json := by
  unfold action at shows
  split at shows
  all_goals cases shows
  exact ⟨rfl, rfl, rfl, rfl⟩

theorem finish_plain {reading : Reading} {invocation : Invocation} {unredacted : Bool}
    (finished : reading.finish = .ok invocation)
    (shows : invocation.action = .environment unredacted true) :
    reading.options.json = true ∧ reading.words = [] ∧
      reading.plain.finish =
        .ok { invocation with action := .environment unredacted false } := by
  obtain ⟨command, options, pending, onlyWords, words⟩ := reading
  rcases command with _ | ⟨name, outer⟩
  · cases finished
  cases pending with
  | some option => cases finished
  | none =>
      simp only [finish] at finished
      cases acts : action name options words with
      | error stop =>
          rw [acts] at finished
          cases finished
      | ok action =>
          rw [acts] at finished
          cases finished
          cases shows
          obtain ⟨rfl, rfl, rfl, asked⟩ := action_eq_environment acts
          exact ⟨asked, rfl, rfl⟩

end Reading

/-- Without the one option that asks for JSON, a command line that shows the environment shows it on
plain lines, and is otherwise the same. -/
theorem ofArguments_erase_json {arguments : List String} {invocation : Invocation}
    {unredacted : Bool} (parsed : Invocation.ofArguments arguments = .ok invocation)
    (shows : invocation.action = .environment unredacted true) :
    Invocation.ofArguments (arguments.erase "--json") =
      .ok { invocation with action := .environment unredacted false } := by
  rw [Invocation.ofArguments] at parsed ⊢
  cases read : arguments.foldlM Reading.step Reading.start with
  | error stop =>
      rw [read] at parsed
      cases parsed
  | ok last =>
      rw [read] at parsed
      obtain ⟨asked, none, plain⟩ := Reading.finish_plain parsed shows
      rw [Reading.run_erase_json (fun _ => rfl) read rfl asked none]
      exact plain

end Command

end LayeredConfig
