import LayeredConfig.Files.Fault
import LayeredConfig.Files.Path

/-!
# File trees

A file tree holds files, directories and symbolic links, each at its place.  `FileTree.find`
follows a path to the spot that it names: a place where something is, or a free place in a
directory.  Links are followed on the way, and there may be at most forty of them.
-/

set_option autoImplicit false

namespace LayeredConfig

namespace Files

/-- A place in a tree: the names on the way to it, the last one first.  The root has none. -/
abbrev Place : Type := List String

inductive Entry where
  | file (bytes : List UInt8)
  | directory
  | link (target : String)
  deriving DecidableEq, Repr

inductive Spot where
  | taken (place : Place) (entry : Entry)
  /-- A free place in a directory. -/
  | free (place : Place)
  deriving DecidableEq, Repr

def Place.path : Place → String
  | [] => "/"
  | place => place.reverse.foldl (fun path name => path ++ "/" ++ name) ""

def maxLinks : Nat := 40

def maxNameBytes : Nat := 255

def maxPathBytes : Nat := 4095

end Files

open Files

structure FileTree where
  /-- The entry at each place; the first one for a place counts. -/
  entries : List (Place × Entry)
  /-- Where relative paths start. -/
  current : Place
  deriving DecidableEq, Repr

namespace FileTree

def entryIn (place : Place) : List (Place × Entry) → Option Entry
  | [] => none
  | (other, entry) :: rest => if place = other then some entry else entryIn place rest

/-- The entry at a place.  The root is a directory. -/
def entry? (tree : FileTree) (place : Place) : Option Entry :=
  match place with
  | [] => some .directory
  | place => entryIn place tree.entries

def setEntryIn (place : Place) (entry : Entry) : List (Place × Entry) → List (Place × Entry)
  | [] => [(place, entry)]
  | (other, old) :: rest =>
      if place = other then (place, entry) :: rest
      else (other, old) :: setEntryIn place entry rest

def setEntry (tree : FileTree) (place : Place) (entry : Entry) : FileTree :=
  { tree with entries := setEntryIn place entry tree.entries }

def dropEntry (tree : FileTree) (place : Place) : FileTree :=
  { tree with entries := tree.entries.filter fun entry => entry.1 ≠ place }

/-- Follows names from a directory.  A link is handed to `follow` with the names that stand for
the rest of the way. -/
def walk (tree : FileTree) (follow : Place → List String → Except Fault Spot) (here : Place) :
    List String → Except Fault Spot
  | [] => .ok (.taken here .directory)
  | name :: rest =>
      if name = sameDirectory then walk tree follow here rest
      else if name = parentDirectory then walk tree follow here.tail rest
      else if maxNameBytes < name.utf8ByteSize then .error .nameTooLong
      else
        match tree.entry? (name :: here) with
        | none => if rest.isEmpty then .ok (.free (name :: here)) else .error .notFound
        | some (.file bytes) =>
            if rest.isEmpty then .ok (.taken (name :: here) (.file bytes))
            else .error .notADirectory
        | some .directory => walk tree follow (name :: here) rest
        | some (.link target) =>
            follow (if isAbsolute target then [] else here) (pathNames target ++ rest)

def walkOver (tree : FileTree) : Nat → Place → List String → Except Fault Spot
  | 0 => tree.walk fun _ _ => .error .tooManyLinks
  | links + 1 => tree.walk (tree.walkOver links)

def find (tree : FileTree) (path : String) : Except Fault Spot :=
  if path.isEmpty then .error .notFound
  else if path.toList.contains '\x00' then .error .nulInPath
  else if maxPathBytes < path.utf8ByteSize then .error .nameTooLong
  else tree.walkOver maxLinks (if isAbsolute path then [] else tree.current) (pathNames path)

/-! ## Reading -/

def isFile (tree : FileTree) (path : String) : Bool :=
  match tree.find path with
  | .ok (.taken _ (.file _)) => true
  | _ => false

def read (tree : FileTree) (path : String) : Except Fault (List UInt8) :=
  match tree.find path with
  | .error fault => .error fault
  | .ok (.free _) => .error .notFound
  | .ok (.taken _ (.file bytes)) => .ok bytes
  | .ok (.taken _ _) => .error .isADirectory

/-- The one absolute path, without links and dots, that leads where a path leads.  A path that
leads nowhere has none. -/
def canonicalPath? (tree : FileTree) (path : String) : Option String :=
  match tree.find path with
  | .ok (.taken place _) => some place.path
  | _ => none

/-! ## Writing -/

/-- The tree after a file was written at the end of a path.  Links are followed, and what was in
the file is lost. -/
def write (tree : FileTree) (path : String) (bytes : List UInt8) : Except Fault FileTree :=
  match tree.find path with
  | .error fault => .error fault
  | .ok (.free place) => .ok (tree.setEntry place (.file bytes))
  | .ok (.taken place (.file _)) => .ok (tree.setEntry place (.file bytes))
  | .ok (.taken _ _) => .error .isADirectory

/-! ## Changes by others

These lay out a tree and change it from outside.  What cannot be done leaves the tree as it is. -/

/-- The tree with directories along names, where nothing else is in the way. -/
def makeDirectoriesFrom (tree : FileTree) (path : String) : List String → FileTree
  | [] => tree
  | name :: rest =>
      let path := joinPath path name
      let tree :=
        match tree.find path with
        | .ok (.free place) => tree.setEntry place .directory
        | _ => tree
      makeDirectoriesFrom tree path rest

/-- The tree with a directory at the end of a path and every directory on the way. -/
def makeDirectories (tree : FileTree) (path : String) : FileTree :=
  tree.makeDirectoriesFrom (if isAbsolute path then "/" else "") (pathNames path)

def splitLast (path : String) : String × Option String :=
  let names := pathNames path
  (names.dropLast.foldl joinPath (if isAbsolute path then "/" else sameDirectory), names.getLast?)

/-- The place that the last name of a path stands for, without following a link there. -/
def place? (tree : FileTree) (path : String) : Option Place :=
  match splitLast path with
  | (directory, some name) =>
      match tree.find directory with
      | .ok (.taken place .directory) => some (name :: place)
      | _ => none
  | (_, none) => none

def putFile (tree : FileTree) (path : String) (bytes : List UInt8) : FileTree :=
  let tree := tree.makeDirectories (splitLast path).1
  (tree.write path bytes).toOption.getD tree

def putLink (tree : FileTree) (path target : String) : FileTree :=
  let tree := tree.makeDirectories (splitLast path).1
  match tree.place? path with
  | some place => if (tree.entry? place).isSome then tree else tree.setEntry place (.link target)
  | none => tree

def removeFile (tree : FileTree) (path : String) : FileTree :=
  match tree.place? path with
  | some place =>
      match tree.entry? place with
      | some .directory => tree
      | _ => tree.dropEntry place
  | none => tree

end FileTree

end LayeredConfig
