import LayeredConfig.Environment
import LayeredConfig.Extends.Expansion

/-!
# Resolution

The configuration of a run in layers: parameters over the environment over the primary document
over everything that these extend.  The primary document is the one that the parameters or the
environment name, or else the first conventional file in the workspace.  A run without workspace
and without named document has only the upper two layers.
-/

set_option autoImplicit false

namespace LayeredConfig

def documentKey : String := "MEGALINTER_CONFIG"

def firstCandidate : String := ".mega-linter.yml"

/-- The other names of conventional files in the order in which they are looked for. -/
def otherCandidates : List String :=
  [".megalinter.yml", ".mega-linter.yaml", ".megalinter.yaml"]

/-- The names of conventional files in the order in which they are looked for. -/
def candidates : List String := firstCandidate :: otherCandidates

/-- The first conventional file in a directory, or the first name when there is none. -/
def discover (tree : FileTree) (directory : String) : Location :=
  let paths := candidates.map (Files.joinPath directory)
  .file ((paths.find? tree.isFile).getD (Files.joinPath directory firstCandidate))

structure RunConfig where
  document : Document
  /-- Where the configuration comes from, one source on a line. -/
  sources : String
  deriving DecidableEq

def defaultWorkspace : String := "."

def sourcesWithoutWorkspace : String := "Environment variables only (no workspace)"

def sourcesWithoutDocument (directory : String) : String :=
  s!"Environment variables only (no config file found in {directory})"

def sourcesWithDocument (path : String) : String :=
  s!"{path} + Environment variables"

def appendLines (sources : String) (lines : List String) : String :=
  lines.foldl (fun text line => text ++ "\n" ++ line) sources

structure Base where
  document : Document
  /-- The location of the primary document. -/
  origin : Option Location
  sources : String
  deriving DecidableEq

def upperLayers (environment : Environment) (parameters : Document) : Document :=
  environment.document.merge parameters

def namedDocument (upper : Document) : Option String :=
  (upper.get? documentKey).map Value.envText

def primaryLocation (tree : FileTree) (directory : String) : Option String → Location
  | some name => locate directory name
  | none => discover tree directory

namespace Loader

/-- Parameters over the environment over the primary document.  A document that is named must
exist. -/
def loadBase (loader : Loader) (directory : String) (named : Option String) (upper : Document) :
    Loading Base := do
  let location := primaryLocation (← get) directory named
  match ← loader.load location with
  | some primary =>
      return ⟨primary.document.merge upper, some location, sourcesWithDocument primary.path⟩
  | none =>
      match named with
      | some _ => throw (.notFound location.display)
      | none => return ⟨upper, none, sourcesWithoutDocument directory⟩

def expandBase (loader : Loader) (directory : String) (base : Base) : Loading RunConfig := do
  if base.document.contains extendsKey then
    let expansion ← loader.expand directory base.document base.origin
    return ⟨expansion.document, appendLines base.sources expansion.lines⟩
  else return ⟨base.document, base.sources⟩

def resolve (loader : Loader) (environment : Environment) (workspace : Option String)
    (parameters : Document) : Loading RunConfig := do
  let upper := upperLayers environment parameters
  match workspace, namedDocument upper with
  | none, none => return ⟨upper, sourcesWithoutWorkspace⟩
  | _, named =>
      let directory := workspace.getD defaultWorkspace
      loader.expandBase directory (← loader.loadBase directory named upper)

/-! ## What one step comes to -/

theorem after_loadBase (loader : Loader) (directory : String) (named : Option String)
    (upper : Document) (tree : FileTree) :
    (loader.loadBase directory named upper).after tree =
      match (loader.load (primaryLocation tree directory named)).after tree with
      | (.error error, later) => (.error error, later)
      | (.ok (some primary), later) =>
          (.ok ⟨primary.document.merge upper, some (primaryLocation tree directory named),
            sourcesWithDocument primary.path⟩, later)
      | (.ok none, later) =>
          match named with
          | some _ => (.error (.notFound (primaryLocation tree directory named).display), later)
          | none => (.ok ⟨upper, none, sourcesWithoutDocument directory⟩, later) := by
  simp only [loadBase, Loading.after_bind, Loading.after_get]
  rcases (loader.load (primaryLocation tree directory named)).after tree with
    ⟨_ | _ | primary, later⟩
  · rfl
  · cases named <;> rfl
  · rfl

theorem after_expandBase_of_contains {base : Base}
    (extending : base.document.contains extendsKey = true) (loader : Loader) (directory : String)
    (tree : FileTree) :
    (loader.expandBase directory base).after tree =
      match (loader.expand directory base.document base.origin).after tree with
      | (.error error, later) => (.error error, later)
      | (.ok expansion, later) =>
          (.ok ⟨expansion.document, appendLines base.sources expansion.lines⟩, later) := by
  simp only [expandBase, extending, ↓reduceIte, Loading.after_bind]
  rcases (loader.expand directory base.document base.origin).after tree with
    ⟨_ | expansion, later⟩ <;> rfl

theorem after_expandBase_of_not_contains {base : Base}
    (alone : base.document.contains extendsKey = false) (loader : Loader) (directory : String)
    (tree : FileTree) :
    (loader.expandBase directory base).after tree = (.ok ⟨base.document, base.sources⟩, tree) := by
  simp only [expandBase, alone, Bool.false_eq_true, ↓reduceIte]
  rfl

/-- A run without workspace and without named document reads no files. -/
theorem after_resolve_of_none {environment : Environment} {parameters : Document}
    (unnamed : namedDocument (upperLayers environment parameters) = none) (loader : Loader)
    (tree : FileTree) :
    (loader.resolve environment none parameters).after tree =
      (.ok ⟨upperLayers environment parameters, sourcesWithoutWorkspace⟩, tree) := by
  simp only [resolve, unnamed]
  rfl

theorem after_resolve_of_some {environment : Environment} {workspace : Option String}
    {parameters : Document}
    (based : ¬ (workspace = none ∧ namedDocument (upperLayers environment parameters) = none))
    (loader : Loader) (tree : FileTree) :
    (loader.resolve environment workspace parameters).after tree =
      match (loader.loadBase (workspace.getD defaultWorkspace)
          (namedDocument (upperLayers environment parameters))
          (upperLayers environment parameters)).after tree with
      | (.error error, later) => (.error error, later)
      | (.ok base, later) =>
          (loader.expandBase (workspace.getD defaultWorkspace) base).after later := by
  unfold resolve
  cases workspace with
  | none =>
      cases named : namedDocument (upperLayers environment parameters) with
      | none => exact absurd ⟨rfl, named⟩ based
      | some name =>
          simp only [named, Loading.after_bind]
          rcases (loader.loadBase _ (some name) _).after tree with ⟨_ | base, later⟩ <;> rfl
  | some directory =>
      simp only [Loading.after_bind]
      rcases (loader.loadBase _ _ (upperLayers environment parameters)).after tree with
        ⟨_ | base, later⟩ <;> rfl

end Loader

end LayeredConfig
