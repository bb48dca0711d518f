import LayeredConfig.Command.Reach

/-!
# The program

Reads the arguments, the environment and the files that the command asks for, and prints what the
command comes to.  The program speaks to no network, so a remote document is never found.
-/

set_option autoImplicit false

namespace LayeredConfig.Program

open Files Command

def placeOf (path : String) : Place :=
  (pathNames path).reverse

def withParents (tree : FileTree) : Place → FileTree
  | [] => tree
  | _ :: parent => (withParents tree parent).setEntry parent .directory

/-- The real path of a path, if something is there. -/
def realPath? (path : String) : IO (Option String) := do
  try
    return some (← IO.FS.realPath path).toString
  catch _ => return none

def readEntry (path : String) : IO Entry := do
  let real ← IO.FS.realPath path
  match (← real.metadata).type with
  | .file => return .file (← IO.FS.readBinFile path).toList
  | _ => return .directory

def explore (tree : FileTree) (here : Place) : List String → IO FileTree
  | [] => return tree
  | name :: names => do
      if name = sameDirectory then explore tree here names
      else if name = parentDirectory then explore tree here.tail names
      else
        let place : Place := name :: here
        match ← realPath? (Place.path place) with
        | none => return tree
        | some real =>
            let target := placeOf real
            let entry ← readEntry real
            let tree := (withParents tree target).setEntry target entry
            let tree := if target = place then tree else tree.setEntry place (.link real)
            explore tree target names

partial def exploreAll (invocation : Invocation) (environment : Environment) (tree : FileTree)
    (known : List String) : IO FileTree := do
  match (invocation.reach environment tree).find? fun path => !known.contains path with
  | none => return tree
  | some path =>
      let start := if isAbsolute path then [] else tree.current
      exploreAll invocation environment (← explore tree start (pathNames path)) (path :: known)

def run (invocation : Invocation) : IO Outcome := do
  let environment := Environment.ofBlock (← IO.FS.readBinFile "/proc/self/environ").toList
  let current := placeOf (← IO.currentDir).toString
  let start : FileTree := withParents ⟨[(current, .directory)], current⟩ current
  let tree ← exploreAll invocation environment start []
  let result := invocation.result (sessionOf .unreachable environment tree)
  if let .error error := result then IO.eprintln error.message
  return outcomeOf result

end LayeredConfig.Program

open LayeredConfig Command Program in
/-- Prints the output of a run and ends with its code. -/
def main (arguments : List String) : IO UInt32 := do
  let outcome ←
    match Invocation.ofArguments arguments with
    | .ok invocation =>
        try run invocation
        catch error =>
          IO.eprintln error
          pure ⟨codeFailed, ""⟩
    | .error stop => pure stop.outcome
  let output ← IO.getStdout
  output.putStr outcome.output
  output.flush
  return outcome.code.toUInt32
