import LayeredConfig.Proofs.Command.Contract
import LayeredConfig.Proofs.Command.JsonOption
import LayeredConfig.Proofs.Json.Indented

/-!
# One environment in two formats

An environment is shown as JSON or on plain lines.  The JSON text is one object that is read back
with every variable as it was, and the lines of that object are the plain text.
-/

set_option autoImplicit false

namespace LayeredConfig.Command

/-! ## The texts of an environment -/

/-- What is promised of the texts of an environment in the two formats. -/
structure Shows (environment : Environment) (json plain : String) : Prop where
  /-- The JSON text is one object, and its members are the variables. -/
  object : Json.parse? json.toList = some (.map environment.document.entries)
  /-- The members that are read back are in the order of their keys, and one on a line they are the
  plain text. -/
  listed : ∀ members, Json.parse? json.toList = some (.map members) →
    Ordered members ∧
      plain = lines (members.map fun member => assignment (member.1, member.2.envText))

theorem toList_jsonEnvironment (environment : Environment) :
    (jsonEnvironment environment).toList = Json.printIndented environment ++ ['\n'] := by
  simp [jsonEnvironment, lines, String.join]

theorem shows_environment (environment : Environment) :
    Shows environment (jsonEnvironment environment) (plainEnvironment environment) := by
  have object : Json.parse? (jsonEnvironment environment).toList =
      some (.map environment.document.entries) := by
    rw [toList_jsonEnvironment]
    exact Json.parse?_printIndented ['\n'] rfl
  refine ⟨object, fun members read => ?_⟩
  rw [object] at read
  cases read
  refine ⟨environment.document.ordered, ?_⟩
  rw [plainEnvironment, Environment.document, Mapping.mapEntries, List.map_map]
  rfl

/-! ## The outputs of a command -/

/-- A command that shows the environment, in either format. -/
def Invocation.showing (invocation : Invocation) (unredacted json : Bool) : Invocation :=
  { invocation with action := .environment unredacted json }

/-- The environment does not depend on the format: the command fails in both, or it shows the reply
to one step in both. -/
theorem outcome_showing {session : Session} (fresh : session.store.run? request = none)
    (invocation : Invocation) (unredacted : Bool) :
    (∀ json, (invocation.showing unredacted json).outcome session = ⟨codeFailed, ""⟩) ∨
      ∃ environment, (invocation.opened session).1 = .ok .done ∧
        ((invocation.opened session).2.step (.toEnvironment request (!unredacted))).1 =
          .ok (.environment environment) ∧
        ∀ json, (invocation.showing unredacted json).outcome session =
          ⟨codeFound,
            if json then jsonEnvironment environment else plainEnvironment environment⟩ := by
  have result := fun json => result_eq_map_shown fresh (invocation.showing unredacted json)
  have sameOpening : ∀ json,
      (invocation.showing unredacted json).opened session = invocation.opened session :=
    fun _ => rfl
  rcases opened_of_run?_none fresh invocation with ⟨error, opened, -⟩ | ⟨run, opened, -, there, -⟩
  · refine .inl fun json => ?_
    rw [Invocation.outcome, result, Invocation.shown, sameOpening, opened]
    rfl
  · have reply := Session.step_toEnvironment there (!unredacted)
    have answer : ∀ json, (invocation.showing unredacted json).answer session =
        (run.document.toEnvironment (!unredacted)).map .environment :=
      fun _ => congrArg Prod.fst reply
    cases made : run.document.toEnvironment (!unredacted) with
    | error error =>
        refine .inl fun json => ?_
        rw [Invocation.outcome, result, Invocation.shown, sameOpening, opened, answer, made]
        rfl
    | ok environment =>
        refine .inr ⟨environment, opened, ?_, fun json => ?_⟩
        · rw [reply, made]
          rfl
        · rw [Invocation.outcome, result, Invocation.shown, sameOpening, opened, answer, made]
          cases json <;> rfl

/-- A command line that asks for the environment as JSON succeeds just when it does without the
option `--json`.  Then there is one environment, the reply to one step, that the two outputs
show. -/
theorem environment_in_two_formats {arguments : List String} {invocation : Invocation}
    {unredacted : Bool} (parsed : Invocation.ofArguments arguments = .ok invocation)
    (shows : invocation.action = .environment unredacted true) (network : Web.Network)
    (environment : Environment) (tree : FileTree) :
    Invocation.ofArguments (arguments.erase "--json") =
        .ok { invocation with action := .environment unredacted false } ∧
      (outcome network environment tree arguments).code =
        (outcome network environment tree (arguments.erase "--json")).code ∧
      ((outcome network environment tree arguments).code = codeFound →
        ∃ shown,
          (invocation.opened (sessionOf network environment tree)).1 = .ok .done ∧
          ((invocation.opened (sessionOf network environment tree)).2.step
            (.toEnvironment request (!unredacted))).1 = .ok (.environment shown) ∧
          Shows shown (outcome network environment tree arguments).output
            (outcome network environment tree (arguments.erase "--json")).output) := by
  have plain := ofArguments_erase_json parsed shows
  have fresh : (sessionOf network environment tree).store.run? request = none := rfl
  have json : invocation.showing unredacted true = invocation := by
    rw [Invocation.showing, ← shows]
  have jsonOutcome : outcome network environment tree arguments =
      (invocation.showing unredacted true).outcome (sessionOf network environment tree) := by
    rw [outcome, parsed, json]
  have plainOutcome : outcome network environment tree (arguments.erase "--json") =
      (invocation.showing unredacted false).outcome (sessionOf network environment tree) := by
    rw [outcome, plain]
    rfl
  refine ⟨plain, ?_⟩
  rw [jsonOutcome, plainOutcome]
  rcases outcome_showing fresh invocation unredacted with failed | ⟨shown, opened, answer, found⟩
  · rw [failed, failed]
    exact ⟨rfl, fun succeeds => absurd succeeds (by decide)⟩
  · rw [found, found]
    exact ⟨rfl, fun _ => ⟨shown, opened, answer, shows_environment shown⟩⟩

/-- A variable with escaped characters and characters of several bytes in its name and value, one
that is secured, and one without a name. -/
def awkwardEnvironment : Environment :=
  Mapping.ofList [("\"\\", "é😀\n\x01\x7f"), ("GITHUB_TOKEN", "secret"), ("", "")]

/-- What is shown of them in a workspace with a few files. -/
def awkwardShown : Environment :=
  Mapping.ofList
    [("", ""), ("\"\\", "é😀\n\x01\x7f"), ("A", "file"), ("B", "file"), ("C", "a\tb="), ("D", "top"),
      ("EXTENDS", "top.yml"), ("GITHUB_TOKEN", hiddenMarker)]

def awkwardArguments : List String :=
  ["env", "-s", "C=a\tb=", "--json", "-w", "/w"]

def awkwardJson : String :=
  "\x7b\n  \"\": \"\",\n  \"\\\"\\\\\": \"é😀\\n\\u0001\x7f\",\n" ++
    "  \"A\": \"file\",\n  \"B\": \"file\",\n  \"C\": \"a\\tb=\",\n  \"D\": \"top\",\n" ++
    "  \"EXTENDS\": \"top.yml\",\n  \"GITHUB_TOKEN\": \"HIDDEN_BY_MEGALINTER\"\n\x7d\n"

def awkwardLines : String :=
  "=\n\"\\=é😀\n\x01\x7f\nA=file\nB=file\nC=a\tb=\nD=top\nEXTENDS=top.yml\n" ++
    "GITHUB_TOKEN=HIDDEN_BY_MEGALINTER\n"

def awkwardOutcome (arguments : List String) : Outcome :=
  outcome Loader.offline.network awkwardEnvironment Loader.workspaceFiles arguments

/-- The plain text does not tell where a value of two lines ends, and the JSON text does. -/
theorem environment_in_two_formats_awkward :
    Invocation.ofArguments awkwardArguments =
        .ok ⟨.environment false true, some "/w", [("C", "a\tb=")], false⟩ ∧
      awkwardOutcome awkwardArguments = ⟨codeFound, awkwardJson⟩ ∧
      awkwardOutcome (awkwardArguments.erase "--json") = ⟨codeFound, awkwardLines⟩ ∧
      Shows awkwardShown awkwardJson awkwardLines := by
  have parsed : Invocation.ofArguments awkwardArguments =
      .ok ⟨.environment false true, some "/w", [("C", "a\tb=")], false⟩ := by
    decide +kernel
  have json : awkwardOutcome awkwardArguments = ⟨codeFound, awkwardJson⟩ := by
    decide +kernel
  have plain : awkwardOutcome (awkwardArguments.erase "--json") = ⟨codeFound, awkwardLines⟩ := by
    decide +kernel
  obtain ⟨-, -, found⟩ := environment_in_two_formats parsed rfl Loader.offline.network
    awkwardEnvironment Loader.workspaceFiles
  change (awkwardOutcome awkwardArguments).code = codeFound → ∃ shown, _ ∧ _ ∧
    Shows shown (awkwardOutcome awkwardArguments).output
      (awkwardOutcome (awkwardArguments.erase "--json")).output at found
  rw [json, plain] at found
  obtain ⟨shown, -, answered, shows⟩ := found rfl
  have same : (Except.ok (.environment shown) : Answer) = .ok (.environment awkwardShown) := by
    rw [← answered]
    decide +kernel
  cases same
  exact ⟨parsed, json, plain, shows⟩

end LayeredConfig.Command
