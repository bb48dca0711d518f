/-!
# Syntax trees of YAML documents

The nodes of a document as they are written.  An anchored node carries the number of its anchor and
an alias the number it refers to.  A number may be given twice; then the last node that has it is
meant.
-/

set_option autoImplicit false

namespace LayeredConfig.Yaml

structure Properties where
  anchor : Option Nat
  tag : Option (List UInt8)
  deriving DecidableEq, Repr

inductive Tree where
  | alias (anchor : Nat)
  | scalar (properties : Properties) (text : List Char) (plain : Bool)
  | sequence (properties : Properties) (items : List Tree)
  | mapping (properties : Properties) (entries : List (Tree × Tree))
  deriving Inhabited

/-- No anchor and no tag. -/
def Properties.none : Properties := ⟨Option.none, Option.none⟩

def Tree.absent : Tree := .scalar .none [] true

def Tree.anchor? : Tree → Option Nat
  | .alias _ => Option.none
  | .scalar properties _ _ => properties.anchor
  | .sequence properties _ => properties.anchor
  | .mapping properties _ => properties.anchor

def Tree.consAnchored (tree : Tree) (others : List (Nat × Tree)) : List (Nat × Tree) :=
  match tree.anchor? with
  | some anchor => (anchor, tree) :: others
  | Option.none => others

mutual

/-- The anchored nodes in the order in which they start. -/
def Tree.anchored : Tree → List (Nat × Tree)
  | .alias _ => []
  | .scalar properties text plain => Tree.consAnchored (.scalar properties text plain) []
  | .sequence properties items =>
      Tree.consAnchored (.sequence properties items) (anchoredItems items)
  | .mapping properties entries =>
      Tree.consAnchored (.mapping properties entries) (anchoredEntries entries)

def Tree.anchoredItems : List Tree → List (Nat × Tree)
  | [] => []
  | item :: items => item.anchored ++ anchoredItems items

def Tree.anchoredEntries : List (Tree × Tree) → List (Nat × Tree)
  | [] => []
  | (key, value) :: entries => key.anchored ++ (value.anchored ++ anchoredEntries entries)

end

mutual

/-- The size of a document: one for a scalar or alias, and two for a collection besides its
parts. -/
def Tree.size : Tree → Nat
  | .alias _ => 1
  | .scalar _ _ _ => 1
  | .sequence _ items => 2 + sizeItems items
  | .mapping _ entries => 2 + sizeEntries entries

def Tree.sizeItems : List Tree → Nat
  | [] => 0
  | item :: items => item.size + sizeItems items

def Tree.sizeEntries : List (Tree × Tree) → Nat
  | [] => 0
  | (key, value) :: entries => key.size + value.size + sizeEntries entries

end

end LayeredConfig.Yaml
