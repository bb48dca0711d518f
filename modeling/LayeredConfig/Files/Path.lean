import LayeredConfig.Text.Separated

/-!
# Paths

The text of a path: names between slashes.  A path that starts with a slash is absolute; every
other path counts from some directory.  Nothing in a path is simplified.
-/

set_option autoImplicit false

namespace LayeredConfig.Files

def isAbsolute (path : String) : Bool :=
  path.toList.head? == some '/'

/-- A path under a base directory.  An absolute path stands for itself, and so does every path
under an empty base. -/
def joinPath (base path : String) : String :=
  if isAbsolute path ∨ base.isEmpty then path
  else if base.toList.getLast? = some '/' then base ++ path
  else base ++ "/" ++ path

def sameDirectory : String := "."

def parentDirectory : String := ".."

/-- The names in a path.  A slash at the end asks for a directory, just as a last name `.` does. -/
def pathNames (path : String) : List String :=
  let parts := Text.splitText '/' path
  let names := parts.filter fun part => !part.isEmpty
  if parts.getLast? = some "" ∧ names ≠ [] then names ++ [sameDirectory] else names

example : joinPath "ws" "a.yml" = "ws/a.yml" := by decide
example : joinPath "ws/" "" = "ws/" := by decide
example : joinPath "ws" "/a.yml" = "/a.yml" := by decide
example : joinPath "" "a.yml" = "a.yml" := by decide
example : pathNames "/a//b/" = ["a", "b", "."] := by decide

end LayeredConfig.Files
