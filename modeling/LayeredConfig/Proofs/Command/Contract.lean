import LayeredConfig.Command.Outcome
import LayeredConfig.Proofs.Command.CommandLine
import LayeredConfig.Proofs.Extends.Faults
import LayeredConfig.Proofs.Session.History

/-!
# What a command comes to

A command is two steps of a session: the initialisation of its own request and one read of it.  Its
exit code tells whether one of them fails, whether the key that is read is absent, or neither, and
in the last case its output is all that the read replies with.  `Invocation.perform` is the same
command line by line: what it prints it prints at once, and yet it never prints before it fails.
The command itself is the one that is written in the arguments, with the settings on one side of its
name.
-/

set_option autoImplicit false

namespace LayeredConfig

namespace Command

/-! ## The steps of a command -/

/-- The step that resolves the configuration of a command. -/
def Invocation.opening (invocation : Invocation) : Step :=
  .init request invocation.workspace (parameters invocation.settings)

/-- The step that reads what an action shows. -/
def Action.step : Action → Step
  | .sources => .getSources request
  | .environment unredacted _ => .toEnvironment request (!unredacted)
  | .get key => .getText request key
  | .list key => .getList request key
  | .arguments key => .getArguments request key
  | .secured => .secured request

/-- The answer to the resolution, and the session after it. -/
def Invocation.opened (invocation : Invocation) (session : Session) : Answer × Session :=
  session.step invocation.opening

/-- The answer to the read that follows the resolution. -/
def Invocation.answer (invocation : Invocation) (session : Session) : Answer :=
  ((invocation.opened session).2.step invocation.action.step).1

/-- The lines of a reply as an action shows it; there are none for an absent key. -/
def Action.lines? : Action → Reply → Option (List String)
  | .sources, .text text => some [text]
  | .environment _ true, .environment shown =>
      some [String.ofList (Json.printIndented shown)]
  | .environment _ false, .environment shown => some (shown.entries.map assignment)
  | .get _, .text? text => text.map fun text => [text]
  | .list _, .values? items => items.map fun items => items.map Value.envText
  | .arguments _, .texts? words => words
  | .secured, .texts names => some names
  | _, _ => none

/-- What a command shows of the answers to its steps; nothing for an absent key. -/
def Invocation.shown (invocation : Invocation) (session : Session) :
    Except ConfigError (Option (List String)) :=
  match (invocation.opened session).1 with
  | .error error => .error error
  | .ok _ => (invocation.answer session).map invocation.action.lines?

/-- The key that an action reads is absent.  A null is absent as a list and as arguments. -/
def Action.Misses (document : Document) : Action → Prop
  | .get key => Mapping.get? document key = none
  | .list key | .arguments key =>
      Mapping.get? document key = none ∨ Mapping.get? document key = some .null
  | .sources | .environment _ _ | .secured => False

theorem get?_parameters (settings : List (String × String)) (key : String) :
    (parameters settings).get? key = (lookup key settings.reverse).map Value.text := by
  rw [parameters, Mapping.get?_ofList, ← List.map_reverse]
  exact Mapping.lookup_map (fun _ => Value.text) settings.reverse key

section Read

variable {session : Session} {run : RunConfig}

theorem request?_step (action : Action) : action.step.request? = some request := by
  cases action <;> rfl

/-- What an action prints are the lines of the reply to its step. -/
theorem outputOf_eq (there : session.store.run? request = some run) (action : Action) :
    outputOf run action =
      (session.step action.step).1.map fun reply => (action.lines? reply).map lines := by
  cases action with
  | sources =>
      rw [Action.step, Session.step, Store.run, there]
      rfl
  | environment unredacted json =>
      rw [Action.step, Session.step_toEnvironment there, outputOf]
      cases run.document.toEnvironment (!unredacted) <;> cases json <;> rfl
  | get key =>
      rw [Action.step, Session.step_getText there, outputOf]
      cases run.document.text? key <;> rfl
  | list key =>
      rw [Action.step, Session.step_getList there, outputOf]
      rcases run.document.list? key with _ | _ | items <;> rfl
  | arguments key =>
      rw [Action.step, Session.step, Session.reading_of_run? there, outputOf]
      rcases run.document.arguments? key with _ | _ | arguments <;> rfl
  | secured =>
      rw [Action.step, Session.step_secured there, outputOf]
      cases run.document.secured <;> rfl

theorem outputOf_eq_none_iff {action : Action} :
    outputOf run action = .ok none ↔ action.Misses run.document := by
  have mapped : ∀ {α : Type} {result : Except ConfigError (Option α)} {f : α → String},
      (result.map fun found => found.map f) = .ok none ↔ result = .ok none := by
    intro α result f
    rcases result with _ | _ | found <;> simp [Except.map]
  have shown : ∀ {α : Type} {result : Except ConfigError α} {f : α → String},
      (result.map fun found => some (f found)) ≠ .ok none := by
    intro α result f
    cases result <;> exact nofun
  cases action with
  | sources => exact iff_of_false nofun id
  | environment unredacted json => exact iff_of_false shown id
  | get key =>
      rw [outputOf, Action.Misses, Document.text?_eq]
      simp
  | list key => exact mapped.trans Document.list?_eq_none_iff
  | arguments key => exact mapped.trans Document.arguments?_eq_none_iff
  | secured => exact iff_of_false shown id

end Read

/-! ## A command line by line -/

/-- A program that prints lines one at a time and can fail between them. -/
abbrev Printing (α : Type) : Type := ExceptT ConfigError (StateM (List String)) α

namespace Printing

variable {α β : Type}

/-- The result of a program and the lines that are printed after it. -/
def after (printing : Printing α) (printed : List String) : Except ConfigError α × List String :=
  printing.run.run printed

def line (text : String) : Printing PUnit :=
  modify fun printed => printed ++ [text]

@[simp] theorem after_pure (a : α) (printed : List String) :
    (pure a : Printing α).after printed = (.ok a, printed) := rfl

@[simp] theorem after_line (text : String) (printed : List String) :
    (line text).after printed = (.ok ⟨⟩, printed ++ [text]) := rfl

@[simp] theorem after_liftM (result : Except ConfigError α) (printed : List String) :
    (liftM result : Printing α).after printed = (result, printed) := by
  cases result <;> rfl

theorem after_bind (first : Printing α) (next : α → Printing β) (printed : List String) :
    (first >>= next).after printed =
      match first.after printed with
      | (.ok a, more) => (next a).after more
      | (.error error, more) => (.error error, more) := by
  change (first.run >>= ExceptT.bindCont next).run printed = _
  simp only [after, StateT.run_bind]
  rcases first.run.run printed with ⟨result, more⟩
  cases result <;> rfl

theorem after_forM (text : β → String) (items : List β) (printed : List String) :
    (items.forM fun item => line (text item)).after printed =
      (.ok ⟨⟩, printed ++ items.map text) := by
  induction items generalizing printed with
  | nil => simp
  | cons item items ih =>
      change (line (text item) >>= fun _ =>
        items.forM fun item => line (text item)).after printed = _
      rw [after_bind, after_line]
      simp only [ih, List.map_cons, List.append_assoc, List.singleton_append]

end Printing

open Printing in
/-- Prints a reply line by line.  The result tells whether there was anything to print. -/
def Action.print : Action → Reply → Printing Bool
  | .sources, .text text => do
      line text
      return true
  | .environment _ json, .environment shown => do
      if json then line (String.ofList (Json.printIndented shown))
      else shown.entries.forM fun entry => line (assignment entry)
      return true
  | .get _, .text? (some text) => do
      line text
      return true
  | .list _, .values? (some items) => do
      items.forM fun item => line item.envText
      return true
  | .arguments _, .texts? (some words) => do
      words.forM line
      return true
  | .secured, .texts names => do
      names.forM line
      return true
  | _, _ => return false

/-- The steps of a command one after the other, and then the reply line by line. -/
def Invocation.perform (invocation : Invocation) (session : Session) : Printing Bool := do
  let _ ← (liftM (invocation.opened session).1 : Printing Reply)
  let reply ← (liftM (invocation.answer session) : Printing Reply)
  invocation.action.print reply

/-- The exit code for the end of a program, and what it has printed by then. -/
def exit : Except ConfigError Bool × List String → Outcome
  | (.error _, printed) => ⟨codeFailed, lines printed⟩
  | (.ok false, printed) => ⟨codeAbsent, lines printed⟩
  | (.ok true, printed) => ⟨codeFound, lines printed⟩

theorem after_print (action : Action) (reply : Reply) (printed : List String) :
    (action.print reply).after printed =
      match action.lines? reply with
      | some texts => (.ok true, printed ++ texts)
      | none => (.ok false, printed) := by
  have each : ∀ {α : Type} (items : List α) (text : α → String),
      ((items.forM fun item => Printing.line (text item)) >>= fun _ => pure true).after printed =
        (.ok true, printed ++ items.map text) := by
    intro α items text
    rw [Printing.after_bind, Printing.after_forM]
    rfl
  have plain : ∀ texts : List String,
      (texts.forM Printing.line >>= fun _ => pure true).after printed =
        (.ok true, printed ++ texts) := by
    intro texts
    rw [each texts fun text => text, List.map_id']
  cases action with
  | sources => cases reply <;> rfl
  | environment unredacted json =>
      cases json with
      | true => cases reply <;> rfl
      | false =>
          cases reply with
          | environment shown => exact each shown.entries assignment
          | _ => rfl
  | get key =>
      cases reply with
      | text? text => cases text <;> rfl
      | _ => rfl
  | list key =>
      cases reply with
      | values? items =>
          cases items with
          | none => rfl
          | some items => exact each items Value.envText
      | _ => rfl
  | arguments key =>
      cases reply with
      | texts? words =>
          cases words with
          | none => rfl
          | some words => exact plain words
      | _ => rfl
  | secured =>
      cases reply with
      | texts names => exact plain names
      | _ => rfl

theorem after_perform (invocation : Invocation) (session : Session) (printed : List String) :
    (invocation.perform session).after printed =
      match invocation.shown session with
      | .error error => (.error error, printed)
      | .ok none => (.ok false, printed)
      | .ok (some texts) => (.ok true, printed ++ texts) := by
  rw [Invocation.perform, Printing.after_bind, Printing.after_liftM, Invocation.shown]
  rcases (invocation.opened session).1 with error | opened
  · rfl
  · simp only [Printing.after_bind, Printing.after_liftM]
    rcases invocation.answer session with error | reply
    · rfl
    · simp only [after_print, Except.map]
      cases invocation.action.lines? reply <;> rfl

/-! ## The end of a command -/

/-- What is promised of the outcome of a command in a session. -/
structure Keeps (session : Session) (invocation : Invocation) (outcome : Outcome) : Prop where
  /-- The code tells of a failure just when the resolution or the read after it fails. -/
  failed : outcome.code = codeFailed ↔
    (∃ error, (invocation.opened session).1 = .error error) ∨
      (invocation.opened session).1 = .ok .done ∧
        ∃ error, invocation.answer session = .error error
  /-- Neither of the two fails for want of a configuration. -/
  initialised : ∀ id,
    (invocation.opened session).1 ≠ .error (.notInitialized id) ∧
      ((invocation.opened session).1 = .ok .done →
        invocation.answer session ≠ .error (.notInitialized id))
  /-- The code tells of an absence just when the key is absent. -/
  absent : outcome.code = codeAbsent ↔
    (invocation.opened session).1 = .ok .done ∧
      ∃ run, (invocation.opened session).2.store.run? request = some run ∧
        invocation.action.Misses run.document
  /-- In any other case the output shows the whole reply. -/
  found : outcome.code ≠ codeFailed → outcome.code ≠ codeAbsent →
    outcome.code = codeFound ∧ (invocation.opened session).1 = .ok .done ∧
      ∃ reply texts, invocation.answer session = .ok reply ∧
        invocation.action.lines? reply = some texts ∧ outcome.output = lines texts
  /-- Only a command that has found what it reads has output. -/
  silent : outcome.code ≠ codeFound → outcome.output = ""
  /-- It comes to the same line by line. -/
  performed : outcome = exit ((invocation.perform session).after [])
  /-- What is printed at all is printed to its end. -/
  whole : ((invocation.perform session).after []).1 ≠ .ok true →
    ((invocation.perform session).after []).2 = []

section Outcome

variable {result : Except ConfigError (Option String)}

theorem code_outcomeOf_eq_failed_iff :
    (outcomeOf result).code = codeFailed ↔ ∃ error, result = .error error := by
  rcases result with error | _ | output
  · exact iff_of_true rfl ⟨error, rfl⟩
  · exact iff_of_false nofun nofun
  · exact iff_of_false nofun nofun

theorem code_outcomeOf_eq_absent_iff :
    (outcomeOf result).code = codeAbsent ↔ result = .ok none := by
  rcases result with error | _ | output
  · exact iff_of_false nofun nofun
  · exact iff_of_true rfl rfl
  · exact iff_of_false nofun nofun

theorem output_outcomeOf (other : (outcomeOf result).code ≠ codeFound) :
    (outcomeOf result).output = "" := by
  rcases result with error | _ | output
  · rfl
  · rfl
  · exact absurd rfl other

end Outcome

section Fresh

variable {session : Session} (fresh : session.store.run? request = none) (invocation : Invocation)

include fresh

/-- The resolution of a command fails for a reason of its own, or leaves the configuration of which
the command prints a view. -/
theorem opened_of_run?_none :
    (∃ error, (invocation.opened session).1 = .error error ∧ error.OfExpansion ∧
        invocation.result session = .error error) ∨
      ∃ run, (invocation.opened session).1 = .ok .done ∧
        ((session.loader.resolve session.environment invocation.workspace
          (parameters invocation.settings)).after session.tree).1 = .ok run ∧
        (invocation.opened session).2.store.run? request = some run ∧
        invocation.result session = outputOf run invocation.action := by
  rw [Invocation.opened, Invocation.opening, Session.step, Invocation.result]
  rcases resolved : (session.loader.resolve session.environment invocation.workspace
    (parameters invocation.settings)).after session.tree with ⟨error | run, tree⟩
  · rw [Session.init_of_resolve_error fresh resolved]
    exact .inl ⟨error, rfl,
      Loader.failsOnly_resolve _ _ _ _ _ error (congrArg Prod.fst resolved), rfl⟩
  · rw [Session.init_of_resolve fresh resolved]
    have there : (session.store.put request run).run? request = some run := Store.run?_put ..
    refine .inr ⟨run, rfl, rfl, there, ?_⟩
    simp only [Store.run, there]

theorem result_eq_map_shown :
    invocation.result session = (invocation.shown session).map (Option.map lines) := by
  rw [Invocation.shown]
  rcases opened_of_run?_none fresh invocation with
    ⟨error, opened, -, result⟩ | ⟨run, opened, -, there, result⟩
  · rw [result, opened]
    rfl
  · rw [result, opened, outputOf_eq there, ← Invocation.answer]
    cases invocation.answer session <;> rfl

theorem keeps_of_run?_none : Keeps session invocation (invocation.outcome session) := by
  have result := result_eq_map_shown fresh invocation
  have performed := after_perform invocation session []
  rw [Invocation.outcome]
  refine
    { failed := ?failed, initialised := ?initialised, absent := ?absent, found := ?found
      silent := output_outcomeOf, performed := ?performed, whole := ?whole }
  case failed =>
    rw [code_outcomeOf_eq_failed_iff]
    rcases opened_of_run?_none fresh invocation with
      ⟨error, opened, -, refused⟩ | ⟨run, opened, -⟩
    · exact iff_of_true ⟨error, refused⟩ (.inl ⟨error, opened⟩)
    · rw [result, Invocation.shown, opened]
      cases invocation.answer session <;> simp [Except.map]
  case initialised =>
    intro id
    rcases opened_of_run?_none fresh invocation with
      ⟨error, opened, proper, -⟩ | ⟨run, opened, -, there, -⟩
    · rw [opened]
      refine ⟨?_, nofun⟩
      rintro ⟨⟩
      exact proper
    · rw [opened]
      refine ⟨nofun, fun _ answered => ?_⟩
      obtain ⟨key, fault, malformed⟩ :=
        Session.malformed_of_step there (request?_step invocation.action) answered
      cases malformed
  case absent =>
    rw [code_outcomeOf_eq_absent_iff]
    rcases opened_of_run?_none fresh invocation with
      ⟨error, opened, -, refused⟩ | ⟨run, opened, -, there, read⟩
    · rw [refused, opened]
      exact iff_of_false nofun nofun
    · rw [read, opened, there, outputOf_eq_none_iff]
      simp
  case found =>
    rw [Ne, code_outcomeOf_eq_failed_iff, Ne, code_outcomeOf_eq_absent_iff]
    intro sound present
    rcases opened_of_run?_none fresh invocation with
      ⟨error, opened, -, refused⟩ | ⟨run, opened, -⟩
    · exact absurd ⟨error, refused⟩ sound
    · rw [Invocation.shown, opened] at result
      rcases answered : invocation.answer session with error | reply
      · rw [answered] at result
        exact absurd ⟨error, result⟩ sound
      · rw [answered] at result
        have listed : invocation.result session =
            .ok ((invocation.action.lines? reply).map lines) := result
        rcases shown : invocation.action.lines? reply with _ | texts
        · rw [shown] at listed
          exact absurd listed present
        · rw [shown] at listed
          rw [listed]
          exact ⟨rfl, opened, reply, texts, rfl, shown, rfl⟩
  case performed =>
    rw [performed, result]
    rcases invocation.shown session with error | _ | texts <;> rfl
  case whole =>
    rw [performed]
    rcases invocation.shown session with error | _ | texts
    · exact fun _ => rfl
    · exact fun _ => rfl
    · exact fun unfinished => absurd rfl unfinished

end Fresh

/-- Arguments that amount to a command come to what is promised of it.  Of two values for a key the
last one is the parameter.  The settings are those that are written behind the name of the command,
or those before it where there is none behind it, so none is lost if they are all on one side. -/
theorem keeps_of_arguments {arguments : List String} {invocation : Invocation}
    (parsed : Invocation.ofArguments arguments = .ok invocation) (network : Web.Network)
    (environment : Environment) (tree : FileTree) :
    Keeps (sessionOf network environment tree) invocation
        (outcome network environment tree arguments) ∧
      (∃ given, invocation.opening = .init ⟨"cli"⟩ invocation.workspace given ∧
        ∀ key, given.get? key = (lookup key invocation.settings.reverse).map Value.text) ∧
      ∃ before word behind, mentions arguments = before ++ .word word :: behind ∧
        invocation.Written before word behind ∧
        (settingsIn before = [] ∨ settingsIn behind = [] →
          invocation.settings = settingsIn (mentions arguments)) := by
  refine ⟨?_, ⟨parameters invocation.settings, rfl, get?_parameters invocation.settings⟩, ?_⟩
  · rw [outcome, parsed]
    exact keeps_of_run?_none rfl invocation
  · rcases Invocation.ofArguments_cases arguments with
      ⟨stop, stopped, -⟩ | ⟨_, before, word, behind, amounts, cut, written⟩
    · cases parsed.symm.trans stopped
    · cases parsed.symm.trans amounts
      refine ⟨before, word, behind, cut, written, fun oneSide => ?_⟩
      rw [cut]
      exact written.settings_eq oneSide

/-- The outcome of a command in a workspace with a few files. -/
def workspaceOutcome (arguments : List String) : Outcome :=
  outcome Loader.offline.network Loader.workspaceEnvironment Loader.workspaceFiles arguments

/-- Arguments with settings on either side of the name of the command. -/
def wordsArguments : List String :=
  ["-v", "-sC=x", "args", "C", "-w", "/w", "-s", "C=a", "-sC=b 'c d'"]

/-- One command finds its words, one finds no value, and one cannot read its list. -/
theorem keeps_of_arguments_workspace :
    Invocation.ofArguments wordsArguments =
        .ok ⟨.arguments "C", some "/w", [("C", "a"), ("C", "b 'c d'")], true⟩ ∧
      Keeps (sessionOf Loader.offline.network Loader.workspaceEnvironment Loader.workspaceFiles)
        ⟨.arguments "C", some "/w", [("C", "a"), ("C", "b 'c d'")], true⟩
        ⟨codeFound, "b\nc d\n"⟩ ∧
      (∃ before word behind, mentions wordsArguments = before ++ .word word :: behind ∧
        Invocation.Written before word behind
          ⟨.arguments "C", some "/w", [("C", "a"), ("C", "b 'c d'")], true⟩) ∧
      Keeps (sessionOf Loader.offline.network Loader.workspaceEnvironment Loader.workspaceFiles)
        ⟨.get "Z", some "/w", [], false⟩ ⟨codeAbsent, ""⟩ ∧
      Keeps (sessionOf Loader.offline.network Loader.workspaceEnvironment Loader.workspaceFiles)
        ⟨.list "C", none, [("C", "[1")], false⟩ ⟨codeFailed, ""⟩ := by
  have words : Invocation.ofArguments wordsArguments =
      .ok ⟨.arguments "C", some "/w", [("C", "a"), ("C", "b 'c d'")], true⟩ := by
    decide +kernel
  have shown : workspaceOutcome wordsArguments = ⟨codeFound, "b\nc d\n"⟩ := by
    decide +kernel
  have value : Invocation.ofArguments ["get", "Z", "--workspace=/w"] =
      .ok ⟨.get "Z", some "/w", [], false⟩ := by
    decide +kernel
  have missing : workspaceOutcome ["get", "Z", "--workspace=/w"] = ⟨codeAbsent, ""⟩ := by
    decide +kernel
  have list : Invocation.ofArguments ["list", "C", "--set", "C=[1"] =
      .ok ⟨.list "C", none, [("C", "[1")], false⟩ := by
    decide +kernel
  have malformed : workspaceOutcome ["list", "C", "--set", "C=[1"] = ⟨codeFailed, ""⟩ := by
    decide +kernel
  obtain ⟨keeps, -, before, word, behind, cut, written, -⟩ := keeps_of_arguments words
    Loader.offline.network Loader.workspaceEnvironment Loader.workspaceFiles
  refine ⟨words, ?_, ⟨before, word, behind, cut, written⟩, ?_, ?_⟩
  · rw [← shown]
    exact keeps
  · rw [← missing]
    exact (keeps_of_arguments value _ _ _).1
  · rw [← malformed]
    exact (keeps_of_arguments list _ _ _).1

/-- Arguments with a setting on either side of the name of the command. -/
def twoSidedArguments : List String :=
  ["-s", "A=1", "get", "A", "-s", "B=2"]

/-- Where there is a setting behind the name of the command, one before it is no parameter. -/
theorem loses_setting_before_name :
    ¬ ∀ (network : Web.Network) (environment : Environment) (tree : FileTree)
        (arguments : List String) (invocation : Invocation),
      Invocation.ofArguments arguments = .ok invocation →
      Keeps (sessionOf network environment tree)
        { invocation with settings := settingsIn (mentions arguments) }
        (outcome network environment tree arguments) := by
  intro keeps
  have parsed : Invocation.ofArguments twoSidedArguments =
      .ok ⟨.get "A", none, [("B", "2")], false⟩ := by decide +kernel
  have written : settingsIn (mentions twoSidedArguments) = [("A", "1"), ("B", "2")] := by
    decide +kernel
  have lost : outcome .unreachable ∅ ⟨[], []⟩ twoSidedArguments = ⟨codeAbsent, ""⟩ := by
    decide +kernel
  have promised : Invocation.outcome ⟨.get "A", none, [("A", "1"), ("B", "2")], false⟩
      (sessionOf .unreachable ∅ ⟨[], []⟩) = ⟨codeFound, "1\n"⟩ := by decide +kernel
  have claimed := keeps .unreachable ∅ ⟨[], []⟩ _ _ parsed
  rw [written, lost] at claimed
  have fresh : (sessionOf .unreachable ∅ ⟨[], []⟩).store.run? request = none := rfl
  have own := keeps_of_run?_none fresh ⟨.get "A", none, [("A", "1"), ("B", "2")], false⟩
  rw [promised] at own
  exact absurd (own.absent.mpr (claimed.absent.mp rfl)) (by decide)

end Command

end LayeredConfig
