import LayeredConfig.Store

/-!
# Sessions

A session is a row of steps on one store, one environment and one tree of files.  A step answers
with a reply or an error, and a step that fails leaves the store as it was.  Between the steps
others may write and remove files; such changes are steps as well.
-/

set_option autoImplicit false

namespace LayeredConfig

structure Session where
  store : Store
  environment : Environment
  loader : Loader
  tree : FileTree
  deriving DecidableEq

inductive Step where
  /-- Resolves the configuration of a request, or lays parameters over the one it has. -/
  | init (id : RequestId) (workspace : Option String) (parameters : Document)
  /-- Resolves a configuration without storing it. -/
  | resolve (workspace : Option String) (parameters : Document)
  | isInitialized (id : RequestId)
  | getDocument (id : RequestId)
  | getRun (id : RequestId)
  | getSources (id : RequestId)
  | getEnvironment
  | setDocument (id : RequestId) (document : Document)
  | delete (id : RequestId)
  | deleteAll
  | get (id : RequestId) (key : String)
  | getOr (id : RequestId) (key : String) (default : Value)
  | getText (id : RequestId) (key : String)
  | getList (id : RequestId) (key : String)
  | getListOr (id : RequestId) (key : String) (default : List Value)
  | getArguments (id : RequestId) (key : String)
  | setValue (id : RequestId) (key : String) (value : Value)
  | contains (id : RequestId) (key : String)
  | removeKey (id : RequestId) (key : String)
  | secured (id : RequestId)
  | toEnvironment (id : RequestId) (redact : Bool)
  | discover (directory : String)
  | load (text base : String)
  | expand (base : String) (document : Document) (origin : Option String)
  | putFile (path : String) (bytes : List UInt8)
  | dropFile (path : String)
  | showFile (path : String)
  deriving DecidableEq

inductive Reply where
  | done
  | bool (b : Bool)
  | document (document : Document)
  | run (run : RunConfig)
  | text (text : String)
  | text? (text : Option String)
  | value? (value : Option Value)
  | value (value : Value)
  | values? (values : Option (List Value))
  | values (values : List Value)
  | texts? (texts : Option (List String))
  | texts (texts : List String)
  | environment (environment : Environment)
  | location (location : Location)
  | loaded? (loaded : Option LoadedDocument)
  | expansion (expansion : Expansion)
  deriving DecidableEq

abbrev Answer : Type := Except ConfigError Reply

namespace Session

def reading {α : Type} (session : Session) (id : RequestId) (reply : α → Reply)
    (read : Document → Except ConfigError α) : Answer × Session :=
  ((session.store.read id read).map reply, session)

def changing (session : Session) (id : RequestId) (f : Document → Document) : Answer × Session :=
  match session.store.change id f with
  | .ok store => (.ok .done, { session with store })
  | .error error => (.error error, session)

def loading {α : Type} (session : Session) (reply : α → Reply) (action : Loading α) :
    Answer × Session :=
  let (result, tree) := action.after session.tree
  (result.map reply, { session with tree })

/-- What an initialisation makes of the slot of its request.  Parameters are laid over a
configuration that is there; an empty slot is filled with what is resolved, and stays empty if that
fails. -/
def initSlot (session : Session) (workspace : Option String) (parameters : Document) :
    Option RunConfig → (Answer × FileTree) × Option RunConfig
  | some run =>
      ((.ok .done, session.tree), some { run with document := run.document.merge parameters })
  | none =>
      match (session.loader.resolve session.environment workspace parameters).after
        session.tree with
      | (.ok run, tree) => ((.ok .done, tree), some run)
      | (.error error, tree) => ((.error error, tree), none)

/-- Resolves the configuration of a request, or lays parameters over the one it has. -/
def init (session : Session) (id : RequestId) (workspace : Option String) (parameters : Document) :
    Answer × Session :=
  let ((answer, tree), store) := session.store.withSlot id (session.initSlot workspace parameters)
  (answer, { session with store, tree })

def step (session : Session) : Step → Answer × Session
  | .init id workspace parameters => session.init id workspace parameters
  | .resolve workspace parameters =>
      session.loading .run (session.loader.resolve session.environment workspace parameters)
  | .isInitialized id => (.ok (.bool (session.store.isInitialized id)), session)
  | .getDocument id => session.reading id .document .ok
  | .getRun id => ((session.store.run id).map .run, session)
  | .getSources id => ((session.store.run id).map fun run => .text run.sources, session)
  | .getEnvironment => (.ok (.document session.environment.document), session)
  | .setDocument id document =>
      (.ok .done, { session with store := session.store.setDocument id document })
  | .delete id => (.ok .done, { session with store := session.store.delete id })
  | .deleteAll => (.ok .done, { session with store := .empty })
  | .get id key => session.reading id .value? fun document => .ok (document.value? key)
  | .getOr id key default =>
      session.reading id .value fun document => .ok (document.valueOr key default)
  | .getText id key => session.reading id .text? fun document => .ok (document.text? key)
  | .getList id key => session.reading id .values? fun document => document.list? key
  | .getListOr id key default =>
      session.reading id .values fun document => document.listOr key default
  | .getArguments id key => session.reading id .texts? fun document => document.arguments? key
  | .setValue id key value => session.changing id fun document => document.insert key value
  | .contains id key => session.reading id .bool fun document => .ok (document.contains key)
  | .removeKey id key => session.changing id fun document => document.erase key
  | .secured id => session.reading id .texts Document.secured
  | .toEnvironment id redact =>
      session.reading id .environment fun document => document.toEnvironment redact
  | .discover directory =>
      (.ok (.location (LayeredConfig.discover session.tree directory)), session)
  | .load text base => session.loading .loaded? (session.loader.load (locate base text))
  | .expand base document origin =>
      session.loading .expansion
        (session.loader.expand base document (origin.map (locate base)))
  | .putFile path bytes => (.ok .done, { session with tree := session.tree.putFile path bytes })
  | .dropFile path => (.ok .done, { session with tree := session.tree.removeFile path })
  | .showFile path =>
      (.ok (.text? ((session.tree.read path).toOption.map Text.decodeLossy)), session)

def run (session : Session) : List Step → List Answer × Session
  | [] => ([], session)
  | step :: steps =>
      let (answer, session) := session.step step
      let (answers, session) := session.run steps
      (answer :: answers, session)

/-! ## Answers about an initialised request -/

section Initialised

variable {session : Session} {id : RequestId} {run : RunConfig}

theorem reading_of_run? {α : Type} (there : session.store.run? id = some run) (reply : α → Reply)
    (read : Document → Except ConfigError α) :
    session.reading id reply read = ((read run.document).map reply, session) := by
  rw [reading, Store.read, Store.run, there]

theorem reading_eq_ok_iff {α : Type} (there : session.store.run? id = some run) {reply : α → Reply}
    (injective : ∀ {a b}, reply a = reply b → a = b) {read : Document → Except ConfigError α}
    {answer : α} :
    session.reading id reply read = (.ok (reply answer), session) ↔
      read run.document = .ok answer := by
  rw [reading_of_run? there]
  cases read run.document with
  | ok found =>
      have same : reply found = reply answer ↔ found = answer := ⟨injective, congrArg reply⟩
      simp [Except.map, same]
  | error error => simp [Except.map]

theorem reading_eq_error_iff {α : Type} (there : session.store.run? id = some run)
    {reply : α → Reply} {read : Document → Except ConfigError α} {error : ConfigError} :
    session.reading id reply read = (.error error, session) ↔
      read run.document = .error error := by
  rw [reading_of_run? there]
  cases read run.document <;> simp [Except.map]

theorem changing_of_run? (there : session.store.run? id = some run) (f : Document → Document) :
    session.changing id f =
      (.ok .done, { session with
        store := session.store.put id { run with document := f run.document } }) := by
  rw [changing, Store.change, Store.run, there]
  rfl

theorem step_getText (there : session.store.run? id = some run) (key : String) :
    session.step (.getText id key) = (.ok (.text? (run.document.text? key)), session) :=
  reading_of_run? there ..

theorem step_getList (there : session.store.run? id = some run) (key : String) :
    session.step (.getList id key) = ((run.document.list? key).map .values?, session) :=
  reading_of_run? there ..

theorem step_getList_eq_ok_iff (there : session.store.run? id = some run) {key : String}
    {items : Option (List Value)} :
    session.step (.getList id key) = (.ok (.values? items), session) ↔
      run.document.list? key = .ok items :=
  reading_eq_ok_iff there Reply.values?.inj

theorem step_getList_eq_error_iff (there : session.store.run? id = some run) {key : String}
    {error : ConfigError} :
    session.step (.getList id key) = (.error error, session) ↔
      run.document.list? key = .error error :=
  reading_eq_error_iff there

theorem step_getListOr (there : session.store.run? id = some run) (key : String)
    (default : List Value) :
    session.step (.getListOr id key default) =
      ((run.document.listOr key default).map .values, session) :=
  reading_of_run? there ..

theorem step_getArguments (there : session.store.run? id = some run) (key : String) :
    session.step (.getArguments id key) = ((run.document.arguments? key).map .texts?, session) :=
  reading_of_run? there ..

theorem step_getArguments_eq_ok_iff (there : session.store.run? id = some run) {key : String}
    {words : Option (List String)} :
    session.step (.getArguments id key) = (.ok (.texts? words), session) ↔
      run.document.arguments? key = .ok words :=
  reading_eq_ok_iff there Reply.texts?.inj

theorem step_getArguments_eq_error_iff (there : session.store.run? id = some run) {key : String}
    {error : ConfigError} :
    session.step (.getArguments id key) = (.error error, session) ↔
      run.document.arguments? key = .error error :=
  reading_eq_error_iff there

end Initialised

end Session

end LayeredConfig
