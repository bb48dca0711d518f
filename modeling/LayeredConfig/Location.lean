import LayeredConfig.Files.Tree

/-!
# Locations of documents

A document is either in a file or at an `http` or `https` address.
-/

set_option autoImplicit false

namespace LayeredConfig

inductive Location where
  | file (path : String)
  | remote (url : String)
  deriving DecidableEq, Repr

def isRemote (text : String) : Bool :=
  "http://".toList.isPrefixOf text.toList || "https://".toList.isPrefixOf text.toList

/-- The location that a text names.  A file is looked for under the base directory. -/
def locate (base text : String) : Location :=
  if isRemote text then .remote text else .file (Files.joinPath base text)

def Location.display : Location → String
  | .file path => path
  | .remote url => url

/-- The identity of a location in a tree.  Two paths to one file have one identity, however they
are spelled and whatever links they follow; a path to nothing is its own identity. -/
def Location.identity (tree : FileTree) : Location → String
  | .file path => (tree.canonicalPath? path).getD path
  | .remote url => url

end LayeredConfig
