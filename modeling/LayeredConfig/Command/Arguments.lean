/-!
# Arguments of the command line

A command with options before and after its name.  An option that takes a value finds it behind it,
in the same argument or in the next one.  The arguments are read one at a time: `Reading` holds
what they amount to so far, and `Reading.step` adds one.

An argument after `--` is never an option.  The next argument is the value of an option even if it
is the name of a command, but it may not start with a dash unless it is a dash alone.
-/

set_option autoImplicit false

namespace LayeredConfig.Command

inductive Action where
  | sources
  | environment (unredacted json : Bool)
  | get (key : String)
  | list (key : String)
  | arguments (key : String)
  | secured
  deriving DecidableEq, Repr

structure Invocation where
  action : Action
  workspace : Option String
  /-- The keys that are set, with their values, in the order in which they are given. -/
  settings : List (String × String)
  verbose : Bool
  deriving DecidableEq, Repr

inductive Stop where
  | usage
  | version
  | help
  deriving DecidableEq, Repr

inductive Name where
  | sources
  | env
  | get
  | list
  | args
  | secured
  deriving DecidableEq, Repr

def Name.ofText? (text : String) : Option Name :=
  if text = "sources" then some .sources
  else if text = "env" then some .env
  else if text = "get" then some .get
  else if text = "list" then some .list
  else if text = "args" then some .args
  else if text = "secured" then some .secured
  else none

inductive ValueOption where
  | workspace
  | set
  deriving DecidableEq, Repr

inductive Flag where
  | verbose
  | unredacted
  | json
  | version
  | help
  deriving DecidableEq, Repr

/-- The options given in one place: before the name of the command or after it. -/
structure Options where
  workspace : Option String
  settings : List (String × String)
  verbose : Bool
  unredacted : Bool
  json : Bool
  deriving DecidableEq, Repr

def Options.none : Options := ⟨Option.none, [], false, false, false⟩

structure Reading where
  command : Option (Name × Options)
  options : Options
  /-- The option whose value comes next. -/
  pending : Option ValueOption
  /-- `--` was read. -/
  onlyWords : Bool
  /-- The words after the name of the command. -/
  words : List String
  deriving DecidableEq, Repr

namespace Reading

def start : Reading := ⟨none, .none, none, false, []⟩

/-- The key and the value in a setting: the text before the first `=`, which is not empty, and the
text after it. -/
def setting? (text : String) : Option (String × String) :=
  let key := text.toList.takeWhile (· ≠ '=')
  match key, text.toList.drop key.length with
  | _ :: _, _ :: value => some (String.ofList key, String.ofList value)
  | _, _ => none

def takeValue (reading : Reading) (option : ValueOption) (value : String) :
    Except Stop Reading :=
  let options := reading.options
  match option with
  | .workspace =>
      if value.isEmpty ∨ options.workspace.isSome then .error .usage
      else .ok { reading with options := { options with workspace := some value }, pending := none }
  | .set =>
      match setting? value with
      | none => .error .usage
      | some setting =>
          let settings := options.settings ++ [setting]
          .ok { reading with options := { options with settings }, pending := none }

/-- Takes an option without value.  No flag may be given twice in one place. -/
def takeFlag (reading : Reading) (flag : Flag) : Except Stop Reading :=
  let options := reading.options
  let command := reading.command.map Prod.fst
  match flag with
  | .verbose =>
      if options.verbose then .error .usage
      else .ok { reading with options := { options with verbose := true } }
  | .unredacted =>
      if options.unredacted ∨ command ≠ some .env then .error .usage
      else .ok { reading with options := { options with unredacted := true } }
  | .json =>
      if options.json ∨ command ≠ some .env then .error .usage
      else .ok { reading with options := { options with json := true } }
  | .version => .error (if command.isNone then .version else .usage)
  | .help => .error .help

/-- Takes options written as single letters after one dash.  The text behind a letter that takes a
value is that value, after `=` if there is one. -/
def takeLetters (reading : Reading) : List Char → Except Stop Reading
  | [] => .ok reading
  | letter :: rest =>
      let withValue (option : ValueOption) : Except Stop Reading :=
        match rest with
        | [] => .ok { reading with pending := some option }
        | '=' :: value => reading.takeValue option (String.ofList value)
        | value => reading.takeValue option (String.ofList value)
      let withFlag (flag : Flag) : Except Stop Reading :=
        match reading.takeFlag flag with
        | .ok reading => takeLetters reading rest
        | .error stop => .error stop
      if letter = 'w' then withValue .workspace
      else if letter = 's' then withValue .set
      else if letter = 'v' then withFlag .verbose
      else if letter = 'V' then withFlag .version
      else if letter = 'h' then withFlag .help
      else .error .usage

/-- Takes an option written as a word after two dashes, with the value behind `=` if there is
one. -/
def takeWordOption (reading : Reading) (name : String) (value : Option String) :
    Except Stop Reading :=
  let withValue (option : ValueOption) : Except Stop Reading :=
    match value with
    | some value => reading.takeValue option value
    | none => .ok { reading with pending := some option }
  let withFlag (flag : Flag) : Except Stop Reading :=
    if value.isSome then .error .usage else reading.takeFlag flag
  if name = "workspace" then withValue .workspace
  else if name = "set" then withValue .set
  else if name = "verbose" then withFlag .verbose
  else if name = "unredacted" then withFlag .unredacted
  else if name = "json" then withFlag .json
  else if name = "version" then withFlag .version
  else if name = "help" then withFlag .help
  else .error .usage

/-- Takes an argument that is no option: the name of the command, or a word behind it. -/
def takeWord (reading : Reading) (word : String) : Except Stop Reading :=
  match reading.command with
  | some _ => .ok { reading with words := reading.words ++ [word] }
  | none =>
      if reading.onlyWords then .error .usage
      else
        match Name.ofText? word with
        | some name =>
            .ok { reading with command := some (name, reading.options), options := .none }
        | none => .error (if word = "help" then .help else .usage)

def step (reading : Reading) (argument : String) : Except Stop Reading :=
  if reading.onlyWords then reading.takeWord argument
  else
    match argument.toList, reading.pending with
    | '-' :: _ :: _, some _ => .error .usage
    | _, some option => reading.takeValue option argument
    | ['-', '-'], none => .ok { reading with onlyWords := true }
    | '-' :: '-' :: option, none =>
        let name := option.takeWhile (· ≠ '=')
        let value := match option.drop name.length with
          | _ :: value => some (String.ofList value)
          | [] => none
        reading.takeWordOption (String.ofList name) value
    | '-' :: letter :: letters, none => reading.takeLetters (letter :: letters)
    | _, none => reading.takeWord argument

def action (name : Name) (options : Options) (words : List String) : Except Stop Action :=
  match name, words with
  | .sources, [] => .ok .sources
  | .env, [] => .ok (.environment options.unredacted options.json)
  | .get, [key] => .ok (.get key)
  | .list, [key] => .ok (.list key)
  | .args, [key] => .ok (.arguments key)
  | .secured, [] => .ok .secured
  | _, _ => .error .usage

/-- The command line after the last argument.  The options after the name of the command count,
and each one that is not given there counts as it is given before the name. -/
def finish (reading : Reading) : Except Stop Invocation :=
  match reading.command, reading.pending with
  | some (name, outer), none =>
      let inner := reading.options
      (action name inner reading.words).map fun action =>
        { action
          workspace := inner.workspace.or outer.workspace
          settings := if inner.settings.isEmpty then outer.settings else inner.settings
          verbose := inner.verbose || outer.verbose }
  | _, _ => .error .usage

end Reading

def Invocation.ofArguments (arguments : List String) : Except Stop Invocation :=
  match arguments.foldlM Reading.step Reading.start with
  | .error stop => .error stop
  | .ok reading => reading.finish

example : Invocation.ofArguments ["-vw", "ws", "get", "KEY", "-s", "KEY=1=2"] =
    .ok ⟨.get "KEY", some "ws", [("KEY", "1=2")], true⟩ := by rfl

example : Invocation.ofArguments ["get", "KEY", "--set"] = .error .usage := by rfl

end LayeredConfig.Command
