import LayeredConfig.Command.Outcome

/-!
# What a command reads

The paths that a command may read, as far as the files that are known tell.  A run that knows each
of them reads nothing else.
-/

set_option autoImplicit false

namespace LayeredConfig.Command

def filePath? : Location → Option String
  | .file path => some path
  | .remote _ => none

def ancestorPaths (directory : String) (document : Document) : List String :=
  (document.ancestors.toOption.getD []).filterMap fun name => filePath? (locate directory name)

def primaryPaths (directory : String) : Option String → List String
  | some name => (filePath? (locate directory name)).toList
  | none => candidates.map (Files.joinPath directory)

def Invocation.reach (invocation : Invocation) (environment : Environment) (tree : FileTree) :
    List String :=
  let upper := environment.document.merge (parameters invocation.settings)
  let named := (upper.get? documentKey).map Value.envText
  match invocation.workspace, named with
  | none, none => []
  | _, _ =>
      let directory := invocation.workspace.getD defaultWorkspace
      let documents := upper :: (Loader.storedBodies tree).filterMap Loader.documentIn?
      primaryPaths directory named ++ documents.flatMap (ancestorPaths directory)

end LayeredConfig.Command
