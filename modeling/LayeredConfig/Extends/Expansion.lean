import LayeredConfig.Extends.Items
import LayeredConfig.Loader

/-!
# Expansion

A document is laid over the documents that it extends, and each of those over the ones that it
extends itself.  Ancestors are taken in the order in which they are named, each with everything
below it before the next one, and a later document wins over an earlier one.

The chain holds the identities of the documents under expansion, outermost first.  A document is in
it only while its own ancestors are laid, so one that is met again beside itself is no cycle.  A
document whose identity is in the chain is its own ancestor.  An identity enters the chain at most
once and only when a document that can be loaded names it, so the number of names in all documents
bounds the depth of the expansion.
-/

set_option autoImplicit false

namespace LayeredConfig

structure Expansion where
  /-- The document over all of its ancestors. -/
  document : Document
  /-- The names of the ancestors in the order in which they were loaded. -/
  ancestors : List String
  deriving DecidableEq

def ancestorLine (name : String) : String :=
  "- extends from: " ++ name

def Expansion.lines (expansion : Expansion) : List String :=
  expansion.ancestors.map ancestorLine

/-- A computation that loads documents under a chain, which it may change on its way. -/
abbrev Expanding (α : Type) : Type := StateT (List String) Loading α

namespace Expanding

variable {α β : Type}

/-- The result of a computation with the chain that it leaves, and the files after it. -/
def after (expanding : Expanding α) (chain : List String) (tree : FileTree) :
    Except ConfigError (α × List String) × FileTree :=
  (expanding.run chain).after tree

/-- A computation with one more identity at the end of the chain, which is taken off after it. -/
def under (identity : String) (expanding : Expanding α) : Expanding α := do
  modify fun chain => chain ++ [identity]
  let result ← expanding
  modify List.dropLast
  return result

@[simp] theorem after_pure (a : α) (chain : List String) (tree : FileTree) :
    (pure a : Expanding α).after chain tree = (.ok (a, chain), tree) := rfl

@[simp] theorem after_throw (error : ConfigError) (chain : List String) (tree : FileTree) :
    (throw error : Expanding α).after chain tree = (.error error, tree) := rfl

@[simp] theorem after_get (chain : List String) (tree : FileTree) :
    (get : Expanding (List String)).after chain tree = (.ok (chain, chain), tree) := rfl

@[simp] theorem after_getThe (chain : List String) (tree : FileTree) :
    (getThe FileTree : Expanding FileTree).after chain tree = (.ok (tree, chain), tree) := rfl

theorem after_liftM (loading : Loading α) (chain : List String) (tree : FileTree) :
    (liftM loading : Expanding α).after chain tree =
      match loading.after tree with
      | (.ok a, later) => (.ok (a, chain), later)
      | (.error error, later) => (.error error, later) := by
  change (loading >>= fun a => pure (a, chain)).after tree = _
  rw [Loading.after_bind]
  rcases loading.after tree with ⟨_ | a, later⟩ <;> rfl

theorem after_bind (first : Expanding α) (next : α → Expanding β) (chain : List String)
    (tree : FileTree) :
    (first >>= next).after chain tree =
      match first.after chain tree with
      | (.ok (a, chain), later) => (next a).after chain later
      | (.error error, later) => (.error error, later) := by
  change ((first.run chain >>= fun pair => (next pair.1).run pair.2).after tree) = _
  rw [Loading.after_bind]
  unfold after
  rcases (first.run chain).after tree with ⟨_ | ⟨a, chain⟩, later⟩ <;> rfl

theorem after_run' (expanding : Expanding α) (chain : List String) (tree : FileTree) :
    Loading.after (StateT.run' expanding chain) tree =
      match expanding.after chain tree with
      | (.ok (a, _), later) => (.ok a, later)
      | (.error error, later) => (.error error, later) := by
  change Loading.after (Prod.fst <$> expanding.run chain) tree = _
  rw [← bind_pure_comp, Loading.after_bind]
  unfold after
  rcases (expanding.run chain).after tree with ⟨_ | ⟨a, chain⟩, later⟩ <;> rfl

theorem after_under (identity : String) (expanding : Expanding α) (chain : List String)
    (tree : FileTree) :
    (expanding.under identity).after chain tree =
      match expanding.after (chain ++ [identity]) tree with
      | (.ok (a, chain), later) => (.ok (a, chain.dropLast), later)
      | (.error error, later) => (.error error, later) := by
  simp only [under, after_bind]
  rfl

end Expanding

/-- The expansion of a document over another one.  There is none when the depth is used up. -/
abbrev Expander : Type := Document → Document → Expanding (Option Expansion)

namespace Loader

/-- Loads an ancestor.  A document that is under expansion is not its own ancestor. -/
def loadAncestor (loader : Loader) (location : Location) (identity : String) :
    Expanding Document := do
  let chain ← get
  if identity ∈ chain then throw (.cyclicExtends (chain ++ [identity]))
  else
    match ← loader.load location with
    | none => throw (.notFound location.display)
    | some parent => return parent.document

/-- Lays an ancestor over `below`, and first everything that it extends itself. -/
def expandAncestor (expander : Expander) (identity : String) (parent below : Document) :
    Expanding (Option Expansion) :=
  let below := below.merge parent
  if parent.contains extendsKey then (expander parent below).under identity
  else return some ⟨below, []⟩

/-- Lays the named documents and then the document that names them over `below`. -/
def expandAncestors (loader : Loader) (base : String) (expander : Expander) (document : Document) :
    List String → Document → Expanding (Option Expansion)
  | [], below => return some ⟨below.merge document, []⟩
  | name :: names, below => do
      let location := locate base name
      let identity := location.identity (← getThe FileTree)
      let parent ← loader.loadAncestor location identity
      match ← expandAncestor expander identity parent below with
      | none => return none
      | some inner =>
          match ← expandAncestors loader base expander document names inner.document with
          | none => return none
          | some outer =>
              return some ⟨outer.document, name :: (inner.ancestors ++ outer.ancestors)⟩

def expandWithin (loader : Loader) (base : String) : Nat → Expander
  | 0 => fun _ _ => return none
  | depth + 1 => fun document below => do
      let names ← document.ancestors
      loader.expandAncestors base (loader.expandWithin base depth) document names below

def documentIn? (bytes : List UInt8) : Option Document :=
  match Text.decode bytes with
  | .error _ => none
  | .ok text => (parseDocument "" text).toOption

def storedBodies (tree : FileTree) : List (List UInt8) :=
  tree.entries.filterMap fun entry =>
    match entry.2 with
    | .file bytes => some bytes
    | _ => none

def servedBodies : Web.Network → List (List UInt8)
  | .unreachable => []
  | .serving answers =>
      answers.filterMap fun answer =>
        match answer.2 with
        | .response response => some response.received
        | .silence => none

def namesIn (document : Document) : List String :=
  document.ancestors.toOption.getD []

def writtenNames (loader : Loader) (tree : FileTree) (document : Document) : List String :=
  let others := (storedBodies tree ++ servedBodies loader.network).filterMap documentIn?
  (document :: others).flatMap namesIn

/-- The chain of an expansion that starts with a document from somewhere. -/
def startingChain (tree : FileTree) (origin : Option Location) : List String :=
  (origin.map (Location.identity tree)).toList

/-- A document over everything that it extends.  The origin is where the document itself was loaded
from, if anywhere. -/
def expand (loader : Loader) (base : String) (document : Document) (origin : Option Location) :
    Loading Expansion := do
  let tree ← get
  let chain := startingChain tree origin
  let depth := (loader.writtenNames tree document).length + 1
  match ← (loader.expandWithin base depth document ∅).run' chain with
  | some expansion => return expansion
  | none => throw (.cyclicExtends chain)

/-! ## What one step comes to -/

theorem after_loadAncestor (loader : Loader) (location : Location) (identity : String)
    (chain : List String) (tree : FileTree) :
    (loader.loadAncestor location identity).after chain tree =
      if identity ∈ chain then (.error (.cyclicExtends (chain ++ [identity])), tree)
      else
        match (loader.load location).after tree with
        | (.error error, later) => (.error error, later)
        | (.ok none, later) => (.error (.notFound location.display), later)
        | (.ok (some parent), later) => (.ok (parent.document, chain), later) := by
  simp only [loadAncestor, Expanding.after_bind, Expanding.after_get]
  by_cases cyclic : identity ∈ chain
  · rw [if_pos cyclic, if_pos cyclic]
    rfl
  · rw [if_neg cyclic, if_neg cyclic, Expanding.after_bind, Expanding.after_liftM]
    rcases (loader.load location).after tree with ⟨_ | _ | parent, later⟩ <;> rfl

theorem after_expandAncestor_of_contains {parent : Document}
    (named : parent.contains extendsKey = true) (expander : Expander) (identity : String)
    (below : Document) (chain : List String) (tree : FileTree) :
    (expandAncestor expander identity parent below).after chain tree =
      match (expander parent (below.merge parent)).after (chain ++ [identity]) tree with
      | (.ok (inner, chain), later) => (.ok (inner, chain.dropLast), later)
      | (.error error, later) => (.error error, later) := by
  simp only [expandAncestor, named, ↓reduceIte, Expanding.after_under]
  rcases (expander parent (below.merge parent)).after (chain ++ [identity]) tree with
    ⟨_ | ⟨inner, chain⟩, later⟩ <;> rfl

theorem after_expandAncestor_of_not_contains {parent : Document}
    (leaf : parent.contains extendsKey = false) (expander : Expander) (identity : String)
    (below : Document) (chain : List String) (tree : FileTree) :
    (expandAncestor expander identity parent below).after chain tree =
      (.ok (some ⟨below.merge parent, []⟩, chain), tree) := by
  simp only [expandAncestor, leaf, Bool.false_eq_true, ↓reduceIte]
  rfl

theorem after_expandAncestors_cons (loader : Loader) (base : String) (expander : Expander)
    (document : Document) (name : String) (names : List String) (below : Document)
    (chain : List String) (tree : FileTree) :
    (loader.expandAncestors base expander document (name :: names) below).after chain tree =
      match (loader.loadAncestor (locate base name) ((locate base name).identity tree)).after
        chain tree with
      | (.error error, later) => (.error error, later)
      | (.ok (parent, chain), later) =>
          match (expandAncestor expander ((locate base name).identity tree) parent below).after
            chain later with
          | (.error error, later) => (.error error, later)
          | (.ok (none, chain), later) => (.ok (none, chain), later)
          | (.ok (some inner, chain), later) =>
              match (loader.expandAncestors base expander document names inner.document).after
                chain later with
              | (.error error, later) => (.error error, later)
              | (.ok (none, chain), later) => (.ok (none, chain), later)
              | (.ok (some outer, chain), later) =>
                  (.ok (some ⟨outer.document, name :: (inner.ancestors ++ outer.ancestors)⟩,
                    chain), later) := by
  simp only [expandAncestors, Expanding.after_bind, Expanding.after_getThe]
  rcases (loader.loadAncestor (locate base name) _).after chain tree with
    ⟨_ | ⟨parent, chain⟩, later⟩
  · rfl
  · simp only
    rcases (expandAncestor expander _ parent below).after chain later with
      ⟨_ | ⟨_ | inner, chain⟩, later⟩
    · rfl
    · rfl
    · simp only [Expanding.after_bind]
      rcases (loader.expandAncestors base expander document names inner.document).after
        chain later with ⟨_ | ⟨_ | outer, chain⟩, later⟩ <;> rfl

theorem after_expandWithin_succ (loader : Loader) (base : String) (depth : Nat)
    (document below : Document) (chain : List String) (tree : FileTree) :
    (loader.expandWithin base (depth + 1) document below).after chain tree =
      match document.ancestors with
      | .error error => (.error error, tree)
      | .ok names =>
          (loader.expandAncestors base (loader.expandWithin base depth) document names below).after
            chain tree := by
  simp only [expandWithin, Expanding.after_bind]
  cases document.ancestors <;> rfl

theorem after_expand (loader : Loader) (base : String) (document : Document)
    (origin : Option Location) (tree : FileTree) :
    (loader.expand base document origin).after tree =
      match (loader.expandWithin base ((loader.writtenNames tree document).length + 1)
        document ∅).after (startingChain tree origin) tree with
      | (.ok (some expansion, _), later) => (.ok expansion, later)
      | (.ok (none, _), later) => (.error (.cyclicExtends (startingChain tree origin)), later)
      | (.error error, later) => (.error error, later) := by
  simp only [expand, Loading.after_bind, Loading.after_get, Expanding.after_run']
  rcases (loader.expandWithin base ((loader.writtenNames tree document).length + 1)
    document ∅).after (startingChain tree origin) tree with
    ⟨_ | ⟨_ | expansion, chain⟩, later⟩ <;> rfl

end Loader

end LayeredConfig
