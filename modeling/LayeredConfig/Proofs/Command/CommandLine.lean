import Mathlib.Tactic.SplitIfs
import LayeredConfig.Command.Arguments

/-!
# What a command line says

`mentions` lists what is written in a row of arguments, in order and without a look at what is
allowed: options with their values, options without values, and words.  A row of arguments is
refused, or it amounts to what it mentions.  Then its first word names the command.  Options behind
the name count, and options before it count where there are none of their kind behind it: settings
before the name are lost if there is a setting behind it.
-/

set_option autoImplicit false

namespace LayeredConfig

namespace Command

/-! ## Mentions -/

inductive Mention where
  | value (option : ValueOption) (text : String)
  | flag (flag : Flag)
  | word (text : String)
  deriving DecidableEq

namespace Mention

def workspace? : Mention → Option String
  | value .workspace text => some text
  | _ => none

/-- The key and the value that a mention sets. -/
def setting? : Mention → Option (String × String)
  | value .set text => Reading.setting? text
  | _ => none

def word? : Mention → Option String
  | word text => some text
  | _ => none

end Mention

def settingsIn (mentions : List Mention) : List (String × String) :=
  mentions.filterMap Mention.setting?

def wordsIn (mentions : List Mention) : List String :=
  mentions.filterMap Mention.word?

def optionsIn (mentions : List Mention) : Options where
  workspace := mentions.findSome? Mention.workspace?
  settings := settingsIn mentions
  verbose := decide (.flag .verbose ∈ mentions)
  unredacted := decide (.flag .unredacted ∈ mentions)
  json := decide (.flag .json ∈ mentions)

/-- Every mention of the option that sets a key gives a key and a value, so no mention is passed
over in the settings. -/
def SetsKeys (mentions : List Mention) : Prop :=
  ∀ text, .value .set text ∈ mentions → ∃ setting, Reading.setting? text = some setting

theorem SetsKeys.concat {mentions : List Mention} {mention : Mention} (sets : SetsKeys mentions)
    (last : ∀ text, mention = .value .set text → ∃ setting, Reading.setting? text = some setting) :
    SetsKeys (mentions ++ [mention]) := by
  intro text member
  rcases List.mem_append.mp member with earlier | here
  · exact sets text earlier
  · exact last text (List.mem_singleton.mp here).symm

theorem settingsIn_append (first second : List Mention) :
    settingsIn (first ++ second) = settingsIn first ++ settingsIn second :=
  List.filterMap_append

theorem wordsIn_append (first second : List Mention) :
    wordsIn (first ++ second) = wordsIn first ++ wordsIn second :=
  List.filterMap_append

/-- There is one way to cut a row of mentions at its first word. -/
theorem eq_of_cut_at_word {before other behind more : List Mention} {word another : String}
    (wordless : wordsIn before = []) (wordlessToo : wordsIn other = [])
    (same : before ++ .word word :: behind = other ++ .word another :: more) :
    before = other ∧ word = another ∧ behind = more := by
  induction before generalizing other with
  | nil =>
      cases other with
      | nil => simpa using same
      | cons mention other =>
          cases same
          cases wordlessToo
  | cons mention before ih =>
      cases other with
      | nil =>
          cases same
          cases wordless
      | cons mentionToo other =>
          obtain ⟨rfl, rest⟩ := List.cons.inj same
          have unsaid : mention.word? = none := by
            cases said : mention.word? with
            | none => rfl
            | some text => simp [wordsIn, said] at wordless
          rw [wordsIn, List.filterMap_cons_none unsaid] at wordless wordlessToo
          obtain ⟨rfl, rfl, rfl⟩ := ih wordless wordlessToo rest
          exact ⟨rfl, rfl, rfl⟩

/-! ## The mentions of a row of arguments -/

def ValueOption.ofLetter? (letter : Char) : Option ValueOption :=
  if letter = 'w' then some .workspace
  else if letter = 's' then some .set
  else none

def ValueOption.ofName? (name : String) : Option ValueOption :=
  if name = "workspace" then some .workspace
  else if name = "set" then some .set
  else none

def Flag.ofLetter? (letter : Char) : Option Flag :=
  if letter = 'v' then some .verbose
  else if letter = 'V' then some .version
  else if letter = 'h' then some .help
  else none

def Flag.ofName? (name : String) : Option Flag :=
  if name = "verbose" then some .verbose
  else if name = "unredacted" then some .unredacted
  else if name = "json" then some .json
  else if name = "version" then some .version
  else if name = "help" then some .help
  else none

/-- What one argument mentions, and the option that it leaves without its value. -/
structure Said where
  mentions : List Mention
  waiting : Option ValueOption

namespace Said

def nothing : Said := ⟨[], none⟩

/-- An option with the value behind it in the same argument, if there is one. -/
def ofValueOption (option : ValueOption) : Option String → Said
  | some text => ⟨[.value option text], none⟩
  | none => ⟨[], some option⟩

/-- The value behind a letter: the rest of the argument without an equals sign in front. -/
def behindLetter : List Char → Option String
  | [] => none
  | '=' :: value => some (String.ofList value)
  | value => some (String.ofList value)

def ofLetters : List Char → Said
  | [] => nothing
  | letter :: rest =>
      match ValueOption.ofLetter? letter, Flag.ofLetter? letter with
      | some option, _ =>
          ofValueOption option (behindLetter rest)
      | none, some flag =>
          let more := ofLetters rest
          ⟨.flag flag :: more.mentions, more.waiting⟩
      | none, none => nothing

def ofWordOption (name : String) (value : Option String) : Said :=
  match ValueOption.ofName? name, Flag.ofName? name with
  | some option, _ => ofValueOption option value
  | none, some flag => ⟨[.flag flag], none⟩
  | none, none => nothing

def ofArgument (argument : String) : Said :=
  match argument.toList with
  | '-' :: '-' :: option =>
      let name := option.takeWhile (· ≠ '=')
      ofWordOption (String.ofList name) ((option.drop name.length).tail?.map String.ofList)
  | '-' :: letter :: letters => ofLetters (letter :: letters)
  | _ => ⟨[.word argument], none⟩

end Said

/-- What a row of arguments mentions if an option waits for its value in front of it.  Behind `--`
there are only words. -/
def mentionsFrom : Option ValueOption → List String → List Mention
  | _, [] => []
  | some option, text :: rest => .value option text :: mentionsFrom none rest
  | none, argument :: rest =>
      if argument = "--" then rest.map .word
      else
        let said := Said.ofArgument argument
        said.mentions ++ mentionsFrom said.waiting rest

def mentions (arguments : List String) : List Mention :=
  mentionsFrom none arguments

theorem mentionsFrom_cons {argument : String} {said : Said} (other : argument ≠ "--")
    (spelled : Said.ofArgument argument = said) (rest : List String) :
    mentionsFrom none (argument :: rest) =
      said.mentions ++ mentionsFrom said.waiting rest := by
  rw [mentionsFrom, if_neg other, spelled]

example : mentions ["-vs", "A=1", "get", "--set=A=2", "--", "-w"] =
    [.flag .verbose, .value .set "A=1", .word "get", .value .set "A=2", .word "-w"] := by decide

namespace Reading

/-! ## Readings and what they hold -/

/-- What a reading holds of the mentions so far: the options before the name of the command, and
the options and words behind it. -/
inductive Holds : List Mention → Reading → Prop where
  | unnamed {mentions : List Mention} {reading : Reading} (sets : SetsKeys mentions)
      (wordless : wordsIn mentions = []) (command : reading.command = none)
      (options : reading.options = optionsIn mentions) (words : reading.words = []) :
      Holds mentions reading
  | named {before behind : List Mention} {word : String} {name : Name} {reading : Reading}
      (sets : SetsKeys (before ++ .word word :: behind)) (wordless : wordsIn before = [])
      (names : Name.ofText? word = some name)
      (command : reading.command = some (name, optionsIn before))
      (options : reading.options = optionsIn behind) (words : reading.words = wordsIn behind) :
      Holds (before ++ .word word :: behind) reading

/-- A reading for which the next argument is the value of an option or, if none waits for one,
anything. -/
structure Awaits (waiting : Option ValueOption) (reading : Reading) : Prop where
  pending : reading.pending = waiting
  onlyWords : reading.onlyWords = false

/-- Why a row of arguments stops: it asks for the version or for help, or is no command line. -/
inductive Stops (mentions : List Mention) : Stop → Prop where
  | usage : Stops mentions .usage
  | version (asked : .flag .version ∈ mentions) : Stops mentions .version
  | help (asked : .flag .help ∈ mentions ∨ (wordsIn mentions).head? = some "help") :
      Stops mentions .help

/-- The result of reading what is mentioned. -/
inductive Reads (mentions : List Mention) (good : Reading → Prop) :
    Except Stop Reading → Prop where
  | stopped {stop : Stop} (stops : Stops mentions stop) : Reads mentions good (.error stop)
  | ok {after : Reading} (holds : Holds mentions after) (has : good after) :
      Reads mentions good (.ok after)

theorem Stops.append {mentions : List Mention} {stop : Stop} (stops : Stops mentions stop)
    (more : List Mention) : Stops (mentions ++ more) stop := by
  cases stops with
  | usage => exact .usage
  | version asked => exact .version (List.mem_append_left more asked)
  | help asked =>
      refine .help (asked.imp (List.mem_append_left more) fun first => ?_)
      rw [wordsIn_append, List.head?_append, first]
      rfl

theorem Reads.mono {mentions : List Mention} {good other : Reading → Prop}
    {result : Except Stop Reading} (reads : Reads mentions good result)
    (implies : ∀ after, good after → other after) : Reads mentions other result := by
  cases reads with
  | stopped stops => exact .stopped stops
  | ok holds has => exact .ok holds (implies _ has)

theorem Reads.bind {mentions more : List Mention} {good other : Reading → Prop}
    {result : Except Stop Reading} {next : Reading → Except Stop Reading}
    (reads : Reads mentions good result)
    (onward : ∀ after, Holds mentions after → good after →
      Reads (mentions ++ more) other (next after)) :
    Reads (mentions ++ more) other (result >>= next) := by
  cases reads with
  | stopped stops => exact .stopped (stops.append more)
  | ok holds has => exact onward _ holds has

theorem holds_start : Holds [] start := .unnamed (fun _ none => nomatch none) rfl rfl rfl rfl

section Mention

variable {mentions : List Mention} {reading : Reading}

theorem Holds.of_eq {after : Reading} (holds : Holds mentions reading)
    (command : after.command = reading.command) (options : after.options = reading.options)
    (words : after.words = reading.words) : Holds mentions after := by
  cases holds with
  | unnamed sets wordless unnamed given empty =>
      exact .unnamed sets wordless (command.trans unnamed) (options.trans given)
        (words.trans empty)
  | named sets wordless names named given listed =>
      exact .named sets wordless names (command.trans named) (options.trans given)
        (words.trans listed)

/-- The mention of an option changes nothing but the options. -/
theorem Holds.mention {after : Reading} {mention : Mention} (holds : Holds mentions reading)
    (last : ∀ text, mention = .value .set text → ∃ setting, setting? text = some setting)
    (option : mention.word? = none) (command : after.command = reading.command)
    (words : after.words = reading.words)
    (options : ∀ given, reading.options = optionsIn given →
      after.options = optionsIn (given ++ [mention])) :
    Holds (mentions ++ [mention]) after := by
  have wordless : wordsIn [mention] = [] := by simp [wordsIn, option]
  cases holds with
  | unnamed sets none unnamed given empty =>
      refine .unnamed (sets.concat last) ?_ (command.trans unnamed) (options _ given)
        (words.trans empty)
      rw [wordsIn_append, none, wordless]
      rfl
  | named sets none names named given listed =>
      have further := sets.concat last
      rw [List.append_assoc, List.cons_append] at further ⊢
      refine .named further none names (command.trans named) (options _ given) ?_
      rw [words, listed, wordsIn_append, wordless, List.append_nil]

variable (holds : Holds mentions reading)

include holds

theorem reads_takeValue (anything : reading.onlyWords = false) (option : ValueOption)
    (value : String) :
    Reads (mentions ++ [.value option value]) (Awaits none) (reading.takeValue option value) := by
  cases option with
  | workspace =>
      simp only [takeValue]
      split_ifs with refused
      · exact .stopped .usage
      · refine .ok (holds.mention nofun rfl rfl rfl fun given same => ?_) ⟨rfl, anything⟩
        have first : given.findSome? Mention.workspace? = none := by
          rw [same] at refused
          exact Option.not_isSome_iff_eq_none.mp (not_or.mp refused).2
        simp [same, optionsIn, settingsIn, first, Mention.workspace?, Mention.setting?]
  | set =>
      simp only [takeValue]
      cases split : setting? value with
      | none => exact .stopped .usage
      | some setting =>
          have formed : ∀ text, Mention.value .set value = .value .set text →
              ∃ setting, setting? text = some setting := by
            rintro _ ⟨⟩
            exact ⟨setting, split⟩
          refine .ok (holds.mention formed rfl rfl rfl fun given same => ?_) ⟨rfl, anything⟩
          simp [same, optionsIn, settingsIn, split, Mention.workspace?, Mention.setting?]

theorem reads_takeFlag (ready : reading.Awaits none) (flag : Flag) :
    Reads (mentions ++ [.flag flag]) (Awaits none) (reading.takeFlag flag) := by
  have asked : .flag flag ∈ mentions ++ [.flag flag] := by simp
  cases flag with
  | version =>
      simp only [takeFlag]
      split_ifs
      · exact .stopped (.version asked)
      · exact .stopped .usage
  | help => exact .stopped (.help (.inl asked))
  | _ =>
      simp only [takeFlag]
      split_ifs
      · exact .stopped .usage
      · refine .ok (holds.mention nofun rfl rfl rfl fun given same => ?_)
          ⟨ready.pending, ready.onlyWords⟩
        simp [same, optionsIn, settingsIn, Mention.workspace?, Mention.setting?]

theorem reads_takeWord (word : String) :
    Reads (mentions ++ [.word word])
      (fun after => after.pending = reading.pending ∧ after.onlyWords = reading.onlyWords)
      (reading.takeWord word) := by
  cases holds with
  | unnamed sets wordless unnamed given empty =>
      simp only [takeWord, unnamed]
      split
      · exact .stopped .usage
      · cases names : Name.ofText? word with
        | some name =>
            exact .ok (.named (sets.concat nofun) wordless names (by rw [given]) rfl empty)
              ⟨rfl, rfl⟩
        | none =>
            refine .stopped ?_
            split_ifs with isHelp
            · refine .help (.inr ?_)
              rw [wordsIn_append, wordless, isHelp]
              rfl
            · exact .usage
  | named sets wordless names named given listed =>
      have further : SetsKeys (_ ++ [.word word]) := sets.concat nofun
      simp only [takeWord, named]
      refine .ok ?_ ⟨rfl, rfl⟩
      rw [List.append_assoc, List.cons_append] at further ⊢
      refine .named further wordless names rfl ?_ ?_
      · rw [given]
        simp [optionsIn, settingsIn, Mention.workspace?, Mention.setting?]
      · rw [listed, wordsIn_append]
        rfl

/-! ## One argument -/

variable (ready : reading.Awaits none)

include ready

theorem reads_valueOption (option : ValueOption) (value : Option String) :
    Reads (mentions ++ (Said.ofValueOption option value).mentions)
      (Awaits (Said.ofValueOption option value).waiting)
      (match value with
        | some value => reading.takeValue option value
        | none => .ok { reading with pending := some option }) := by
  cases value with
  | some value => exact reads_takeValue holds ready.onlyWords option value
  | none =>
      refine .ok ?_ ⟨rfl, ready.onlyWords⟩
      rw [Said.ofValueOption, List.append_nil]
      exact holds.of_eq rfl rfl rfl

theorem reads_letterValue (option : ValueOption) (rest : List Char) :
    Reads (mentions ++ (Said.ofValueOption option (Said.behindLetter rest)).mentions)
      (Awaits (Said.ofValueOption option (Said.behindLetter rest)).waiting)
      (match rest with
        | [] => .ok { reading with pending := some option }
        | '=' :: value => reading.takeValue option (String.ofList value)
        | value => reading.takeValue option (String.ofList value)) := by
  have reads := reads_valueOption holds ready option (Said.behindLetter rest)
  split
  · exact reads
  · exact reads
  · rename_i present unmarked
    rw [Said.behindLetter] at reads ⊢ <;> assumption

omit holds ready in
/-- An option without value, and the letters behind it. -/
theorem Reads.letters {flag : Flag} {rest : List Char} {result : Except Stop Reading} :
    Reads (mentions ++ [.flag flag]) (Awaits none) result →
    (∀ {mentions : List Mention} {reading : Reading}, Holds mentions reading →
        reading.Awaits none → Reads (mentions ++ (Said.ofLetters rest).mentions)
          (Awaits (Said.ofLetters rest).waiting) (reading.takeLetters rest)) →
      Reads (mentions ++ .flag flag :: (Said.ofLetters rest).mentions)
        (Awaits (Said.ofLetters rest).waiting)
        (match result with
          | .ok after => after.takeLetters rest
          | .error stop => .error stop) := by
  intro reads further
  rw [List.append_cons]
  cases reads with
  | stopped stops => exact .stopped (stops.append _)
  | ok holds ready => exact further holds ready

/-- By induction on the letters: what the first one mentions comes first. -/
theorem reads_takeLetters (letters : List Char) :
    Reads (mentions ++ (Said.ofLetters letters).mentions)
      (Awaits (Said.ofLetters letters).waiting) (reading.takeLetters letters) := by
  induction letters generalizing mentions reading with
  | nil => exact .ok (by rwa [Said.ofLetters, Said.nothing, List.append_nil]) ready
  | cons letter rest ih =>
      simp only [takeLetters]
      split_ifs with w s v V h
      · subst w
        exact reads_letterValue holds ready .workspace rest
      · subst s
        exact reads_letterValue holds ready .set rest
      · subst v
        exact (reads_takeFlag holds ready .verbose).letters ih
      · subst V
        exact (reads_takeFlag holds ready .version).letters ih
      · subst h
        exact (reads_takeFlag holds ready .help).letters ih
      · exact .stopped .usage

theorem reads_takeWordOption (name : String) (value : Option String) :
    Reads (mentions ++ (Said.ofWordOption name value).mentions)
      (Awaits (Said.ofWordOption name value).waiting) (reading.takeWordOption name value) := by
  cases value with
  | some value =>
      simp only [takeWordOption, Option.isSome_some, ↓reduceIte]
      split_ifs with workspace set
      · subst workspace
        exact reads_valueOption holds ready .workspace (some value)
      · subst set
        exact reads_valueOption holds ready .set (some value)
      all_goals exact .stopped .usage
  | none =>
      simp only [takeWordOption, Option.isSome_none, Bool.false_eq_true, ↓reduceIte]
      split_ifs with workspace set verbose unredacted json version help
      · subst workspace
        exact reads_valueOption holds ready .workspace none
      · subst set
        exact reads_valueOption holds ready .set none
      · subst verbose
        exact reads_takeFlag holds ready .verbose
      · subst unredacted
        exact reads_takeFlag holds ready .unredacted
      · subst json
        exact reads_takeFlag holds ready .json
      · subst version
        exact reads_takeFlag holds ready .version
      · subst help
        exact reads_takeFlag holds ready .help
      · exact .stopped .usage

theorem reads_step {argument : String} (other : argument ≠ "--") :
    Reads (mentions ++ (Said.ofArgument argument).mentions)
      (Awaits (Said.ofArgument argument).waiting) (reading.step argument) := by
  rw [step, ready.onlyWords, if_neg Bool.false_ne_true, ready.pending]
  split
  · exact .stopped .usage
  · rename_i waits _
    cases waits
  · rename_i spelled _
    exact absurd (String.toList_inj.mp spelled) other
  · rename_i option _ spelled _
    simp only [Said.ofArgument, spelled]
    have reads := reads_takeWordOption holds ready
      (String.ofList (option.takeWhile (· ≠ '=')))
      ((option.drop (option.takeWhile (· ≠ '=')).length).tail?.map String.ofList)
    cases behind : option.drop (option.takeWhile (· ≠ '=')).length with
    | nil => rwa [behind] at reads
    | cons mark value => rwa [behind] at reads
  · rename_i spelled _
    simp only [Said.ofArgument, spelled]
    exact reads_takeLetters holds ready _
  · simp only [Said.ofArgument]
    refine (reads_takeWord holds argument).mono fun after same => ?_
    exact ⟨same.1.trans ready.pending, same.2.trans ready.onlyWords⟩

omit ready in
/-- The value of an option that waits for one. -/
theorem reads_awaited {option : ValueOption} (awaits : reading.Awaits (some option))
    (argument : String) :
    Reads (mentions ++ [.value option argument]) (Awaits none) (reading.step argument) := by
  rw [step, awaits.onlyWords, if_neg Bool.false_ne_true, awaits.pending]
  split
  · exact .stopped .usage
  · rename_i same _
    cases same
    exact reads_takeValue holds awaits.onlyWords option argument
  all_goals contradiction

end Mention

/-! ## A row of arguments -/

section Row

variable {mentions : List Mention} {reading : Reading} (holds : Holds mentions reading)

include holds

theorem reads_words (words : reading.onlyWords = true) (arguments : List String) :
    Reads (mentions ++ arguments.map .word) (fun _ => True)
      (arguments.foldlM step reading) := by
  induction arguments generalizing mentions reading with
  | nil => exact .ok (by rwa [List.map_nil, List.append_nil]) trivial
  | cons argument arguments ih =>
      rw [List.foldlM_cons, step, if_pos words, List.map_cons, List.append_cons]
      exact (reads_takeWord holds argument).bind fun after holds same =>
        ih holds (same.2.trans words)

theorem reads_arguments {waiting : Option ValueOption} (awaits : reading.Awaits waiting)
    (arguments : List String) :
    Reads (mentions ++ mentionsFrom waiting arguments) (fun _ => True)
      (arguments.foldlM step reading) := by
  induction arguments generalizing mentions reading waiting with
  | nil =>
      cases waiting <;> exact .ok (by rwa [mentionsFrom, List.append_nil]) trivial
  | cons argument arguments ih =>
      rw [List.foldlM_cons]
      cases waiting with
      | some option =>
          rw [mentionsFrom, List.append_cons]
          exact (reads_awaited holds awaits argument).bind fun after holds ready => ih holds ready
      | none =>
          rw [mentionsFrom]
          split_ifs with bare
          · have separated : reading.step "--" = .ok { reading with onlyWords := true } := by
              rw [step, awaits.onlyWords, awaits.pending]
              rfl
            have further : Holds mentions { reading with onlyWords := true } :=
              holds.of_eq rfl rfl rfl
            rw [bare, separated]
            exact reads_words further rfl arguments
          · rw [← List.append_assoc]
            exact (reads_step holds awaits bare).bind fun after holds awaits => ih holds awaits

end Row

/-! ## The end of a command line -/

theorem action_stops {name : Name} {options : Options} {words : List String} {stop : Stop}
    (stopped : action name options words = .error stop) : stop = .usage := by
  unfold action at stopped
  split at stopped
  all_goals cases stopped
  rfl

end Reading

/-- An invocation as it is written: options, the name of the command, and behind it the options and
words that count first. -/
structure Invocation.Written (before : List Mention) (word : String) (behind : List Mention)
    (invocation : Invocation) : Prop where
  sets : SetsKeys (before ++ .word word :: behind)
  /-- The first word is the name of the command. -/
  wordless : wordsIn before = []
  action : ∃ name, Name.ofText? word = some name ∧
    Reading.action name (optionsIn behind) (wordsIn behind) = .ok invocation.action
  workspace : invocation.workspace = (optionsIn behind).workspace.or (optionsIn before).workspace
  /-- One setting behind the name takes the place of all settings before it. -/
  settings : invocation.settings =
    if settingsIn behind = [] then settingsIn before else settingsIn behind
  verbose : invocation.verbose = ((optionsIn behind).verbose || (optionsIn before).verbose)

/-- No setting is lost if they are all on one side of the name. -/
theorem Invocation.Written.settings_eq {before behind : List Mention} {word : String}
    {invocation : Invocation} (written : invocation.Written before word behind)
    (oneSide : settingsIn before = [] ∨ settingsIn behind = []) :
    invocation.settings = settingsIn (before ++ .word word :: behind) := by
  have all : settingsIn (before ++ .word word :: behind) =
      settingsIn before ++ settingsIn behind :=
    settingsIn_append before _
  rw [all, written.settings]
  rcases oneSide with none | none
  · rw [none, List.nil_append]
    split_ifs with noneToo
    · exact noneToo.symm
    · rfl
  · rw [if_pos none, none, List.append_nil]

/-- There is a command if its name is read, no option waits for a value and the words are those of
the command. -/
theorem Reading.finish_cases {mentions : List Mention} {reading : Reading}
    (holds : Reading.Holds mentions reading) :
    reading.finish = .error .usage ∨
      ∃ invocation before word behind, reading.finish = .ok invocation ∧
        mentions = before ++ .word word :: behind ∧ invocation.Written before word behind := by
  cases holds with
  | unnamed sets wordless unnamed =>
      refine .inl ?_
      rw [finish, unnamed]
  | @named before behind word name _ sets wordless names named given listed =>
      cases waits : reading.pending with
      | some option =>
          refine .inl ?_
          rw [finish, named, waits]
      | none =>
          rw [finish, named, waits]
          simp only [given, listed]
          cases acts : action name (optionsIn behind) (wordsIn behind) with
          | error stop =>
              rw [action_stops acts]
              exact .inl rfl
          | ok action =>
              refine .inr ⟨_, before, word, behind, rfl, rfl, ?_⟩
              refine ⟨sets, wordless, ⟨name, names, acts⟩, rfl, ?_, rfl⟩
              simp only [optionsIn, List.isEmpty_iff]

/-- A row of arguments is refused, or it amounts to a command as it is written in it. -/
theorem Invocation.ofArguments_cases (arguments : List String) :
    (∃ stop, Invocation.ofArguments arguments = .error stop ∧
        Reading.Stops (mentions arguments) stop) ∨
      ∃ invocation before word behind, Invocation.ofArguments arguments = .ok invocation ∧
        mentions arguments = before ++ .word word :: behind ∧
        invocation.Written before word behind := by
  have ready : Reading.start.Awaits none := ⟨rfl, rfl⟩
  have reads := Reading.reads_arguments Reading.holds_start ready arguments
  rw [List.nil_append, ← mentions] at reads
  rw [Invocation.ofArguments]
  generalize arguments.foldlM Reading.step Reading.start = result at reads ⊢
  cases reads with
  | stopped stops => exact .inl ⟨_, rfl, stops⟩
  | @ok last holds _ =>
      rcases Reading.finish_cases holds with refused | written
      · exact .inl ⟨.usage, refused, .usage⟩
      · exact .inr written

end Command

end LayeredConfig
