import Mathlib.Data.List.TakeWhile
import LayeredConfig.Proofs.Command.Contract
import LayeredConfig.Proofs.Resolution.Initialisation

/-!
# Settings on the command line

A setting is split at its first `=`, and nothing in its value is read.  The last setting for a key
is the value of that key, in whichever layers below the key has a value as well.
-/

set_option autoImplicit false

namespace LayeredConfig

namespace Command

/-! ## Texts with an equals sign -/

theorem takeWhile_append_equals {name : List Char} (plain : '=' ∉ name) (rest : List Char) :
    (name ++ '=' :: rest).takeWhile (· ≠ '=') = name := by
  rw [List.takeWhile_append_of_pos]
  · simp
  · intro char member
    exact decide_eq_true fun equals => plain (equals ▸ member)

theorem toList_append_equals (key value : String) :
    (key ++ "=" ++ value).toList = key.toList ++ '=' :: value.toList := by
  rw [String.toList_append, String.toList_append, List.append_assoc]
  rfl

theorem exists_append_equals {text : String} (member : '=' ∈ text.toList) :
    ∃ key value : String, '=' ∉ key.toList ∧ text = key ++ "=" ++ value := by
  obtain ⟨key, value, split, plain⟩ := List.eq_append_cons_of_mem member
  refine ⟨String.ofList key, String.ofList value, ?_, ?_⟩
  · rwa [String.toList_ofList]
  · rw [← String.toList_inj, toList_append_equals, String.toList_ofList, String.toList_ofList,
      split]

namespace Reading

theorem setting?_append {key : String} (plain : '=' ∉ key.toList) (value : String) :
    setting? (key ++ "=" ++ value) = if key = "" then none else some (key, value) := by
  have rest : (key.toList ++ '=' :: value.toList).drop key.toList.length = '=' :: value.toList :=
    List.drop_left
  simp only [setting?, toList_append_equals, takeWhile_append_equals plain, rest]
  cases named : key.toList with
  | nil => rw [if_pos (String.toList_eq_nil_iff.mp named)]
  | cons first more =>
      rw [if_neg]
      · simp only [← named, String.ofList_toList]
      · rintro rfl
        cases named

theorem setting?_of_not_mem {text : String} (plain : '=' ∉ text.toList) :
    setting? text = none := by
  have all : text.toList.takeWhile (· ≠ '=') = text.toList := by
    rw [List.takeWhile_eq_self_iff]
    intro char member
    exact decide_eq_true fun equals => plain (equals ▸ member)
  simp only [setting?, all, List.drop_length]
  cases text.toList <;> rfl

/-- A setting is the text for one key and value: the key is not empty and has no `=`. -/
theorem setting?_eq_some_iff {text key value : String} :
    setting? text = some (key, value) ↔
      key ≠ "" ∧ '=' ∉ key.toList ∧ text = key ++ "=" ++ value := by
  constructor
  · intro read
    by_cases member : '=' ∈ text.toList
    · obtain ⟨first, rest, plain, rfl⟩ := exists_append_equals member
      rw [setting?_append plain] at read
      split at read
      · cases read
      · rename_i named
        cases read
        exact ⟨named, plain, rfl⟩
    · rw [setting?_of_not_mem member] at read
      cases read
  · rintro ⟨named, plain, rfl⟩
    rw [setting?_append plain, if_neg named]

end Reading

/-! ## Options with a value -/

/-- The ways to write an option with its value: `--set=VALUE`, `--set VALUE` and `-s VALUE`. -/
inductive Spelling where
  | joined
  | apart
  | short
  deriving DecidableEq

structure Switch where
  option : ValueOption
  value : String
  spelling : Spelling
  deriving DecidableEq

namespace Switch

def word : ValueOption → String
  | .workspace => "workspace"
  | .set => "set"

def letter : ValueOption → Char
  | .workspace => 'w'
  | .set => 's'

def arguments (switch : Switch) : List String :=
  match switch.spelling with
  | .joined => ["--" ++ word switch.option ++ "=" ++ switch.value]
  | .apart => ["--" ++ word switch.option, switch.value]
  | .short => [String.ofList ['-', letter switch.option], switch.value]

def setting? (switch : Switch) : Option (String × String) :=
  match switch.option with
  | .workspace => none
  | .set => Reading.setting? switch.value

/-- The settings in a row of options. -/
def settings (switches : List Switch) : List (String × String) :=
  switches.filterMap setting?

theorem settings_cons (switch : Switch) (switches : List Switch) :
    settings (switch :: switches) = switch.setting?.toList ++ settings switches := by
  rw [settings, List.filterMap_cons]
  cases switch.setting? <;> rfl

theorem settings_append (first second : List Switch) :
    settings (first ++ second) = settings first ++ settings second :=
  List.filterMap_append

/-- An option with its value, however it is spelled. -/
def mention (switch : Switch) : Mention :=
  .value switch.option switch.value

theorem setting?_mention (switch : Switch) : switch.mention.setting? = switch.setting? := by
  rw [mention, setting?]
  cases switch.option <;> rfl

theorem settingsIn_mentions (switches : List Switch) :
    settingsIn (switches.map mention) = settings switches := by
  rw [settingsIn, settings, List.filterMap_map]
  exact congrArg (switches.filterMap ·) (funext setting?_mention)

theorem wordsIn_mentions (switches : List Switch) : wordsIn (switches.map mention) = [] := by
  simp [wordsIn, mention, Mention.word?]

theorem said_joined (option : ValueOption) (value : String) :
    Said.ofArgument ("--" ++ word option ++ "=" ++ value) = ⟨[.value option value], none⟩ := by
  have spelled : ("--" ++ word option ++ "=" ++ value).toList =
      '-' :: '-' :: ((word option).toList ++ '=' :: value.toList) := by
    rw [toList_append_equals, String.toList_append]
    rfl
  rw [Said.ofArgument, spelled]
  -- The names are fixed texts, so the first equals sign is found without a look at the value.
  cases option with
  | workspace =>
      change Said.ofWordOption "workspace" (some (String.ofList value.toList)) = _
      rw [String.ofList_toList]
      rfl
  | set =>
      change Said.ofWordOption "set" (some (String.ofList value.toList)) = _
      rw [String.ofList_toList]
      rfl

theorem said_apart (option : ValueOption) :
    Said.ofArgument ("--" ++ word option) = ⟨[], some option⟩ := by
  cases option <;> rfl

theorem said_short (option : ValueOption) :
    Said.ofArgument (String.ofList ['-', letter option]) = ⟨[], some option⟩ := by
  cases option <;> rfl

theorem mentionsFrom_arguments (switch : Switch) (rest : List String) :
    mentionsFrom none (switch.arguments ++ rest) =
      switch.mention :: mentionsFrom none rest := by
  obtain ⟨option, value, spelling⟩ := switch
  cases spelling with
  | joined =>
      have other : "--" ++ word option ++ "=" ++ value ≠ "--" := by
        intro same
        have texts := congrArg String.toList same
        rw [toList_append_equals] at texts
        cases option <;> cases texts
      exact mentionsFrom_cons other (said_joined option value) rest
  | apart =>
      have other : "--" ++ word option ≠ "--" := by cases option <;> decide
      exact mentionsFrom_cons other (said_apart option) (value :: rest)
  | short =>
      have other : String.ofList ['-', letter option] ≠ "--" := by cases option <;> decide
      exact mentionsFrom_cons other (said_short option) (value :: rest)

theorem mentionsFrom_switches (switches : List Switch) (rest : List String) :
    mentionsFrom none (switches.flatMap arguments ++ rest) =
      switches.map mention ++ mentionsFrom none rest := by
  induction switches with
  | nil => rfl
  | cons switch switches ih =>
      rw [List.flatMap_cons, List.append_assoc, mentionsFrom_arguments, ih]
      rfl

end Switch

/-- A word that does not start with a dash is no option. -/
theorem mentionsFrom_word {word : String} (plain : word.toList.head? ≠ some '-')
    (rest : List String) :
    mentionsFrom none (word :: rest) = .word word :: mentionsFrom none rest := by
  have other : word ≠ "--" := by
    rintro rfl
    exact plain rfl
  have said : Said.ofArgument word = ⟨[.word word], none⟩ := by
    rw [Said.ofArgument]
    split
    case h_3 => rfl
    all_goals simp_all only [List.head?_cons, ne_eq, not_true_eq_false]
  exact mentionsFrom_cons other said rest

/-- A command that reads a key, with options before its name, before the key and after it. -/
def getArguments (outer first second : List Switch) (key : String) : List String :=
  outer.flatMap Switch.arguments ++
    "get" :: (first.flatMap Switch.arguments ++ key :: second.flatMap Switch.arguments)

theorem mentions_getArguments (outer first second : List Switch) {key : String}
    (plain : key.toList.head? ≠ some '-') :
    mentions (getArguments outer first second key) =
      outer.map Switch.mention ++ .word "get" ::
        (first.map Switch.mention ++ .word key :: second.map Switch.mention) := by
  have last := Switch.mentionsFrom_switches second []
  rw [List.append_nil] at last
  rw [mentions, getArguments, Switch.mentionsFrom_switches, mentionsFrom_word (by decide),
    Switch.mentionsFrom_switches, mentionsFrom_word plain, last, mentionsFrom, List.append_nil]

/-- A command that reads a key is refused, or the settings behind its name are its settings if
there are any. -/
theorem ofArguments_getArguments (outer first second : List Switch) {key : String}
    (plain : key.toList.head? ≠ some '-') :
    Invocation.ofArguments (getArguments outer first second key) = .error .usage ∨
      ∃ invocation,
        Invocation.ofArguments (getArguments outer first second key) = .ok invocation ∧
        invocation.action = .get key ∧
        (Switch.settings (first ++ second) ≠ [] →
          invocation.settings = Switch.settings (first ++ second)) := by
  have mentioned := mentions_getArguments outer first second plain
  have words : wordsIn (first.map Switch.mention ++ .word key :: second.map Switch.mention) =
      [key] := by
    rw [wordsIn_append, Switch.wordsIn_mentions]
    exact congrArg (key :: ·) (Switch.wordsIn_mentions second)
  rcases Invocation.ofArguments_cases (getArguments outer first second key) with
    ⟨stop, stopped, stops⟩ | ⟨invocation, before, word, behind, amounts, cut, written⟩
  · rw [mentioned] at stops
    refine .inl (stopped.trans (congrArg Except.error ?_))
    cases stops with
    | usage => rfl
    | version asked => simp [Switch.mention] at asked
    | help asked =>
        rw [wordsIn_append, Switch.wordsIn_mentions] at asked
        simp [Switch.mention, wordsIn, Mention.word?] at asked
  · rw [mentioned] at cut
    obtain ⟨rfl, rfl, rfl⟩ := eq_of_cut_at_word (Switch.wordsIn_mentions outer) written.wordless cut
    obtain ⟨name, names, acts⟩ := written.action
    cases names
    rw [words] at acts
    have settings :
        settingsIn (first.map Switch.mention ++ .word key :: second.map Switch.mention) =
          Switch.settings (first ++ second) := by
      rw [settingsIn_append, Switch.settings_append, Switch.settingsIn_mentions]
      exact congrArg (_ ++ ·) (Switch.settingsIn_mentions second)
    refine .inr ⟨invocation, amounts, (Except.ok.inj acts).symm, fun present => ?_⟩
    rw [written.settings, settings, if_neg present]

/-! ## The value of a setting -/

/-- Options none of which sets a key have no setting for it. -/
theorem lookup_settings_eq_none {key : String} {switches : List Switch}
    (unset : ∀ other spelling, ⟨.set, key ++ "=" ++ other, spelling⟩ ∉ switches) :
    lookup key (Switch.settings switches).reverse = none := by
  rw [← Option.not_isSome_iff_eq_none, Mapping.lookup_isSome_iff, List.map_reverse,
    List.mem_reverse]
  intro member
  obtain ⟨⟨same, other⟩, setting, rfl⟩ := List.mem_map.mp member
  obtain ⟨⟨option, text, spelling⟩, among, sets⟩ := List.mem_filterMap.mp setting
  cases option with
  | workspace => cases sets
  | set =>
      obtain ⟨-, -, rfl⟩ := Reading.setting?_eq_some_iff.mp sets
      exact unset other spelling among

theorem lookup_settings {key value : String} {before after : List Switch} {spelling : Spelling}
    (named : key ≠ "") (plain : '=' ∉ key.toList)
    (last : ∀ other spelling, ⟨.set, key ++ "=" ++ other, spelling⟩ ∉ after) :
    lookup key
        (Switch.settings (before ++ ⟨.set, key ++ "=" ++ value, spelling⟩ :: after)).reverse =
      some value := by
  have sets : Switch.setting? ⟨.set, key ++ "=" ++ value, spelling⟩ = some (key, value) :=
    Reading.setting?_eq_some_iff.mpr ⟨named, plain, rfl⟩
  rw [Switch.settings_append, Switch.settings_cons, sets, List.reverse_append, List.reverse_append,
    Mapping.lookup_append, Mapping.lookup_append, lookup_settings_eq_none last]
  simp [lookup]

/-- A command that reads a key of its own settings fails with the resolution, or shows the last
value that it is given for the key. -/
theorem outcome_of_setting {session : Session} (fresh : session.store.run? request = none)
    {invocation : Invocation} {key value : String} (reads : invocation.action = .get key)
    (given : lookup key invocation.settings.reverse = some value) :
    (∃ error, (invocation.opened session).1 = .error error) ∧
        invocation.outcome session = ⟨codeFailed, ""⟩ ∨
      (invocation.opened session).1 = .ok .done ∧
        invocation.outcome session = ⟨codeFound, value ++ "\n"⟩ := by
  have parameter : (parameters invocation.settings).get? key = some (.text value) := by
    rw [get?_parameters, given]
    rfl
  rcases opened_of_run?_none fresh invocation with
    ⟨error, opened, -, result⟩ | ⟨run, opened, resolved, -, result⟩
  · exact .inl ⟨⟨error, opened⟩, by rw [Invocation.outcome, result]; rfl⟩
  · have shown : run.document.text? key = some value := by
      rw [Document.text?_eq, Loader.get?_of_resolve_of_parameter resolved parameter]
      rfl
    refine .inr ⟨opened, ?_⟩
    rw [Invocation.outcome, result, reads, outputOf, shown]
    simp [lines, outcomeOf, String.join]

/-- The last setting for a key wins as it is given, whatever its value looks like and whatever the
key has in the environment, in the documents and in earlier settings.  There is another end only
where the options are refused or the resolution fails. -/
theorem outcome_of_getArguments {key value : String} (named : key ≠ "")
    (plain : '=' ∉ key.toList) (word : key.toList.head? ≠ some '-')
    {outer first second before after : List Switch} {spelling : Spelling}
    (inner : first ++ second = before ++ ⟨.set, key ++ "=" ++ value, spelling⟩ :: after)
    (last : ∀ other spelling, ⟨.set, key ++ "=" ++ other, spelling⟩ ∉ after)
    (network : Web.Network) (environment : Environment) (tree : FileTree) :
    (outcome network environment tree (getArguments outer first second key) = ⟨codeFailed, ""⟩ ∧
        (Invocation.ofArguments (getArguments outer first second key) = .error .usage ∨
          ∃ invocation error,
            Invocation.ofArguments (getArguments outer first second key) = .ok invocation ∧
            (invocation.opened (sessionOf network environment tree)).1 = .error error)) ∨
      outcome network environment tree (getArguments outer first second key) =
        ⟨codeFound, value ++ "\n"⟩ := by
  rcases ofArguments_getArguments outer first second word with
    stopped | ⟨invocation, parsed, reads, settings⟩
  · refine .inl ⟨?_, .inl stopped⟩
    rw [outcome, stopped]
    rfl
  · have given : lookup key (Switch.settings (first ++ second)).reverse = some value := by
      rw [inner]
      exact lookup_settings named plain last
    -- The settings before the name of the command count only where there is none behind it.
    have present : Switch.settings (first ++ second) ≠ [] := by
      intro empty
      rw [empty] at given
      cases given
    rw [← settings present] at given
    have fresh : (sessionOf network environment tree).store.run? request = none := rfl
    rw [outcome, parsed]
    rcases outcome_of_setting fresh reads given with ⟨⟨error, opened⟩, failed⟩ | ⟨-, found⟩
    · exact .inl ⟨failed, .inr ⟨invocation, error, rfl, opened⟩⟩
    · exact .inr found

/-- Options that set a key over the file, its ancestor, the environment and another setting. -/
def layeredSwitches : List Switch :=
  [⟨.workspace, "/w", .joined⟩, ⟨.set, "A=earlier", .apart⟩,
    ⟨.set, "A" ++ "=" ++ "'[x]', y=1\n", .joined⟩, ⟨.set, "AB=later", .joined⟩]

/-- Options that set one key in the workspace. -/
def singleSwitches (key value : String) : List Switch :=
  [⟨.workspace, "/w", .short⟩, ⟨.set, key ++ "=" ++ value, .joined⟩]

/-- The keys that steer the resolution are shown as they are set, too. -/
theorem outcome_of_getArguments_workspace :
    workspaceOutcome (getArguments [⟨.set, "A=outer", .short⟩] (layeredSwitches.take 2)
        (layeredSwitches.drop 2) "A") = ⟨codeFound, "'[x]', y=1\n" ++ "\n"⟩ ∧
      workspaceOutcome (getArguments [] [] (singleSwitches "EXTENDS" "top.yml") "EXTENDS") =
        ⟨codeFound, "top.yml" ++ "\n"⟩ ∧
      workspaceOutcome (getArguments [] [] (singleSwitches "MEGALINTER_CONFIG" "top.yml")
        "MEGALINTER_CONFIG") = ⟨codeFound, "top.yml" ++ "\n"⟩ := by
  have inner : layeredSwitches.take 2 ++ layeredSwitches.drop 2 =
      layeredSwitches.take 2 ++
        ⟨.set, "A" ++ "=" ++ "'[x]', y=1\n", .joined⟩ :: layeredSwitches.drop 3 :=
    rfl
  have last : ∀ other spelling,
      ⟨.set, "A" ++ "=" ++ other, spelling⟩ ∉ layeredSwitches.drop 3 := by
    intro other spelling member
    have same : "A" ++ "=" ++ other = "AB=later" :=
      congrArg Switch.value (List.mem_singleton.mp member)
    have texts := congrArg String.toList same
    rw [toList_append_equals] at texts
    cases texts
  have runs : (workspaceOutcome (getArguments [⟨.set, "A=outer", .short⟩]
      (layeredSwitches.take 2) (layeredSwitches.drop 2) "A")).code ≠ codeFailed := by
    decide +kernel
  have single : ∀ {key value : String}, key ≠ "" → '=' ∉ key.toList →
      key.toList.head? ≠ some '-' →
      (workspaceOutcome (getArguments [] [] (singleSwitches key value) key)).code ≠ codeFailed →
      workspaceOutcome (getArguments [] [] (singleSwitches key value) key) =
        ⟨codeFound, value ++ "\n"⟩ := by
    intro key value named plain word runs
    have inner : [] ++ singleSwitches key value =
        [⟨.workspace, "/w", .short⟩] ++ ⟨.set, key ++ "=" ++ value, .joined⟩ :: [] :=
      rfl
    exact (outcome_of_getArguments named plain word inner nofun _ _ _).resolve_left
      fun failed => runs (congrArg Outcome.code failed.1)
  refine ⟨?_, ?_, ?_⟩
  · exact Or.resolve_left
      (outcome_of_getArguments (by decide) (by decide) (by decide) inner last _ _ _)
      fun failed => runs (congrArg Outcome.code failed.1)
  · exact single (by decide) (by decide) (by decide) (by decide +kernel)
  · exact single (by decide) (by decide) (by decide) (by decide +kernel)

end Command

end LayeredConfig
