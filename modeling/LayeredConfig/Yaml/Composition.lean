import LayeredConfig.Yaml.Grammar
import LayeredConfig.Yaml.Lexer
import LayeredConfig.Yaml.Resolution

/-!
# From trees to nodes

Aliases are expanded, scalars get their types and duplicate keys are refused.  Two limits keep the
result small: collections are nested at most 128 deep, and a document of size `n` expands at most
`100 * n` aliases.  An alias inside its own anchor exceeds the first limit.
-/

set_option autoImplicit false

namespace LayeredConfig.Yaml

def maxDepth : Nat := 128

/-- The aliases that are expanded for each unit of size. -/
def aliasesPerUnit : Nat := 100

abbrev Composer (α : Type) : Type := StateT Nat (Except Fault) α

/-- What aliases refer to, and how many are expanded. -/
structure Anchors where
  nodes : List (Nat × Tree)
  limit : Nat

def Anchors.find? (anchors : Anchors) (number : Nat) : Option Tree :=
  anchors.nodes.reverse.lookup number

def Anchors.follow (anchors : Anchors) : Tree → Composer Tree
  | .alias number => do
      let expanded := (← get) + 1
      set expanded
      if anchors.limit < expanded then throw .aliasExpansion
      match anchors.find? number with
      | some tree => return tree
      | none => throw .unknownAlias
  | tree => return tree

/-- The entries of a mapping read one after the other; each key differs from those before. -/
def composeEntries (child : Tree → Composer Node) :
    List (Node × Node) → List (Tree × Tree) → Composer (List (Node × Node))
  | read, [] => return read.reverse
  | read, (key, value) :: entries => do
      let key ← child key
      if read.any fun entry => entry.1.sameKey key then throw .duplicateKey
      let value ← child value
      composeEntries child ((key, value) :: read) entries

/-- The node of a tree; `child?` composes the parts of a collection, if another level is
allowed. -/
def composeNode (anchors : Anchors) (child? : Option (Tree → Composer Node)) (tree : Tree) :
    Composer Node := do
  let apply (tag : Option (List UInt8)) (node : Option (List UInt8) → Composer Node) :
      Composer Node :=
    match tag.bind applicationTag? with
    | some name => Node.tagged name <$> node none
    | none => node tag
  match ← anchors.follow tree with
  | .alias _ => throw .unknownAlias
  | .scalar properties text plain =>
      apply properties.tag fun tag => scalarNode tag text plain
  | .sequence properties items =>
      apply properties.tag fun _ =>
        match child? with
        | none => throw .nesting
        | some child => Node.sequence <$> items.mapM child
  | .mapping properties entries =>
      apply properties.tag fun _ =>
        match child? with
        | none => throw .nesting
        | some child => Node.mapping <$> composeEntries child [] entries

def compose (anchors : Anchors) : Nat → Tree → Composer Node
  | 0 => composeNode anchors none
  | depth + 1 => composeNode anchors (some (compose anchors depth))

def nodeOfTree (tree : Tree) : Except Fault Node :=
  (compose ⟨tree.anchored, aliasesPerUnit * tree.size⟩ maxDepth tree).run' 0

/-- The node of a text that holds one document, and null for a text without document. -/
def parse (text : List Char) : Except Fault Node := do
  match ← Reader.readStream (← tokens text) with
  | none => return .null
  | some tree => nodeOfTree tree

end LayeredConfig.Yaml
