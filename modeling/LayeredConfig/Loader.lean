import LayeredConfig.DocumentText
import LayeredConfig.Location

/-!
# Loading documents

A document in a file is read where it is.  A remote document is fetched, and a copy of its bytes is
left in a directory for temporary files before they are read; the copy is never read back.
-/

set_option autoImplicit false

namespace LayeredConfig

abbrev Loading (α : Type) : Type := ExceptT ConfigError (StateM FileTree) α

namespace Loading

variable {α β : Type}

def after (loading : Loading α) (tree : FileTree) : Except ConfigError α × FileTree :=
  loading.run.run tree

@[simp] theorem after_pure (a : α) (tree : FileTree) :
    (pure a : Loading α).after tree = (.ok a, tree) := rfl

@[simp] theorem after_throw (error : ConfigError) (tree : FileTree) :
    (throw error : Loading α).after tree = (.error error, tree) := rfl

@[simp] theorem after_get (tree : FileTree) :
    (get : Loading FileTree).after tree = (.ok tree, tree) := rfl

@[simp] theorem after_set (tree later : FileTree) :
    (set later : Loading PUnit).after tree = (.ok ⟨⟩, later) := rfl

@[simp] theorem after_liftM (result : Except ConfigError α) (tree : FileTree) :
    (liftM result : Loading α).after tree = (result, tree) := by
  cases result <;> rfl

theorem after_bind (first : Loading α) (next : α → Loading β) (tree : FileTree) :
    (first >>= next).after tree =
      match first.after tree with
      | (.ok a, later) => (next a).after later
      | (.error error, later) => (.error error, later) := by
  change ((first.run >>= ExceptT.bindCont next).run tree) = _
  simp only [after, StateT.run_bind]
  rcases first.run.run tree with ⟨result, later⟩
  cases result <;> rfl

end Loading

structure Loader where
  network : Web.Network
  /-- The most bytes in a remote document. -/
  bodyLimit : UInt64
  /-- The directory for the copies of remote documents. -/
  temporary : String
  deriving DecidableEq, Repr

/-- The usual limit on the bytes of a remote document. -/
def usualBodyLimit : UInt64 := 10 * 1024 * 1024

structure LoadedDocument where
  path : String
  document : Document
  deriving DecidableEq

/-- The name of a copy whose address ends in no name. -/
def nameOfUnnamed : String := "mega-linter-remote.yml"

/-- The name of the copy of a remote document: the last segment of its path. -/
def copyName (url : Url) : String :=
  match url.lastSegment? with
  | some (c :: segment) => String.ofList (c :: segment)
  | _ => nameOfUnnamed

namespace Loader

def address (text : String) : Except ConfigError Url :=
  match Url.parse text with
  | .ok url => .ok url
  | .error fault => .error (.fetch text (.invalidUrl fault))

def copyPath (loader : Loader) (text : String) : Except ConfigError String :=
  (address text).map fun url => Files.joinPath loader.temporary (copyName url)

def fetch (loader : Loader) (text : String) : Except ConfigError (List UInt8) :=
  match address text with
  | .error error => .error error
  | .ok url =>
      match Web.fetch loader.network loader.bodyLimit url with
      | .ok bytes => .ok bytes
      | .error fault => .error (.ofWeb text fault)

def readRemote (text : String) (bytes : List UInt8) : Except ConfigError Document :=
  match Text.decode bytes with
  | .error failure => .error (.parse text (.notUtf8 failure))
  | .ok content => parseDocument text content

def readFile (path : String) (bytes : List UInt8) : Except ConfigError Document :=
  match Text.decode bytes with
  | .error _ => .error (.file .notUtf8)
  | .ok content => parseDocument path content

/-- Loads the document in a file; there is none where no file is. -/
def loadFile (path : String) : Loading (Option LoadedDocument) := do
  let tree ← get
  if tree.isFile path then
    match tree.read path with
    | .error fault => throw (.file fault)
    | .ok bytes => return some ⟨path, ← readFile path bytes⟩
  else return none

def loadRemote (loader : Loader) (text : String) : Loading LoadedDocument := do
  let path ← loader.copyPath text
  let bytes ← loader.fetch text
  match (← get).write path bytes with
  | .error fault => throw (.file fault)
  | .ok tree => set tree
  return ⟨path, ← readRemote text bytes⟩

/-- Loads the document at a location.  There is none where a location on this machine holds no
file; a remote document exists or fails. -/
def load (loader : Loader) : Location → Loading (Option LoadedDocument)
  | .file path => loadFile path
  | .remote url => do return some (← loader.loadRemote url)

/-- Reading a file changes none. -/
theorem after_loadFile (path : String) (tree : FileTree) :
    (loadFile path).after tree =
      (if tree.isFile path then
          match tree.read path with
          | .error fault => .error (.file fault)
          | .ok bytes => (readFile path bytes).map fun document => some ⟨path, document⟩
        else .ok none, tree) := by
  simp only [loadFile, Loading.after_bind, Loading.after_get]
  by_cases isFile : tree.isFile path = true
  · rw [if_pos isFile, if_pos isFile]
    cases tree.read path with
    | error fault => rfl
    | ok bytes =>
        simp only [Loading.after_bind, Loading.after_liftM]
        cases readFile path bytes <;> rfl
  · rw [if_neg isFile, if_neg isFile]
    rfl

/-- The copy is written before the bytes are read, and stays when they are no document. -/
theorem after_loadRemote (loader : Loader) (text : String) (tree : FileTree) :
    (loader.loadRemote text).after tree =
      match loader.copyPath text with
      | .error error => (.error error, tree)
      | .ok path =>
          match loader.fetch text with
          | .error error => (.error error, tree)
          | .ok bytes =>
              match tree.write path bytes with
              | .error fault => (.error (.file fault), tree)
              | .ok later =>
                  ((readRemote text bytes).map fun document => ⟨path, document⟩, later) := by
  simp only [loadRemote, Loading.after_bind, Loading.after_liftM, Loading.after_get]
  cases loader.copyPath text with
  | error error => rfl
  | ok path =>
      cases loader.fetch text with
      | error error => rfl
      | ok bytes =>
          simp only
          cases tree.write path bytes with
          | error fault => rfl
          | ok later =>
              simp only
              cases readRemote text bytes <;> rfl

theorem after_load_file (loader : Loader) (path : String) (tree : FileTree) :
    (loader.load (.file path)).after tree = (loadFile path).after tree := rfl

theorem after_load_remote (loader : Loader) (url : String) (tree : FileTree) :
    (loader.load (.remote url)).after tree =
      (((loader.loadRemote url).after tree).1.map some,
        ((loader.loadRemote url).after tree).2) := by
  simp only [load, Loading.after_bind]
  rcases (loader.loadRemote url).after tree with ⟨_ | loaded, later⟩ <;> rfl

end Loader

end LayeredConfig
