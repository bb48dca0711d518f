import LayeredConfig.Command.Arguments
import LayeredConfig.Session

/-!
# Outcomes of commands

A command resolves the configuration of one request and prints one view of it.  What it prints is
known as a whole before any of it is printed, so a command that fails prints nothing.
-/

set_option autoImplicit false

namespace LayeredConfig.Command

structure Outcome where
  code : UInt8
  output : String
  deriving DecidableEq, Repr

def codeFound : UInt8 := 0

def codeAbsent : UInt8 := 1

def codeFailed : UInt8 := 2

def request : RequestId := ⟨"cli"⟩

def lines (texts : List String) : String :=
  String.join (texts.map fun text => text ++ "\n")

def assignment (entry : String × String) : String :=
  entry.1 ++ "=" ++ entry.2

def plainEnvironment (environment : Environment) : String :=
  lines (environment.entries.map assignment)

def jsonEnvironment (environment : Environment) : String :=
  lines [String.ofList (Json.printIndented environment)]

/-- The output of an action on a configuration; there is none when the key is absent. -/
def outputOf (run : RunConfig) : Action → Except ConfigError (Option String)
  | .sources => .ok (some (lines [run.sources]))
  | .environment unredacted json =>
      (run.document.toEnvironment (!unredacted)).map fun environment =>
        some (if json then jsonEnvironment environment else plainEnvironment environment)
  | .get key => .ok ((run.document.text? key).map fun text => lines [text])
  | .list key =>
      (run.document.list? key).map fun items =>
        items.map fun items => lines (items.map Value.envText)
  | .arguments key =>
      (run.document.arguments? key).map fun arguments => arguments.map lines
  | .secured => run.document.secured.map fun names => some (lines names)

def outcomeOf : Except ConfigError (Option String) → Outcome
  | .error _ => ⟨codeFailed, ""⟩
  | .ok none => ⟨codeAbsent, ""⟩
  | .ok (some output) => ⟨codeFound, output⟩

/-- The settings of a command line as parameters of a run; of two for one key the last counts. -/
def parameters (settings : List (String × String)) : Document :=
  Mapping.ofList (settings.map fun setting => (setting.1, .text setting.2))

def Invocation.result (invocation : Invocation) (session : Session) :
    Except ConfigError (Option String) :=
  let (answer, session) :=
    session.init request invocation.workspace (parameters invocation.settings)
  match answer with
  | .error error => .error error
  | .ok _ =>
      match session.store.run request with
      | .error error => .error error
      | .ok run => outputOf run invocation.action

def Invocation.outcome (invocation : Invocation) (session : Session) : Outcome :=
  outcomeOf (invocation.result session)

def versionLine : String := "megalinter-config 0.1.0"

/-- The end of a command line that amounts to no command.  The text of the help is left out. -/
def Stop.outcome : Stop → Outcome
  | .usage => ⟨codeFailed, ""⟩
  | .version => ⟨codeFound, lines [versionLine]⟩
  | .help => ⟨codeFound, ""⟩

def temporaryKey : String := "TMPDIR"

def temporaryDirectory (environment : Environment) : String :=
  (environment.get? temporaryKey).getD "/tmp"

def sessionOf (network : Web.Network) (environment : Environment) (tree : FileTree) : Session :=
  { store := .empty
    environment
    loader := ⟨network, usualBodyLimit, temporaryDirectory environment⟩
    tree }

def outcome (network : Web.Network) (environment : Environment) (tree : FileTree)
    (arguments : List String) : Outcome :=
  match Invocation.ofArguments arguments with
  | .error stop => stop.outcome
  | .ok invocation => invocation.outcome (sessionOf network environment tree)

end LayeredConfig.Command
