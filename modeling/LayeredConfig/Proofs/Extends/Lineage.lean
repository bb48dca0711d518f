import LayeredConfig.Proofs.Extends.Termination

/-!
# The tree of ancestors

What an expansion loads is a tree: an item that a document names, and under it the items that the
document of this item names.  The items are loaded depth first, each of them from the files as the
one before has left them, and the expansion lists them in the order in which they are loaded: an
item, then everything under it, then the next item beside it.  An item that is met again is loaded
and listed again.
-/

set_option autoImplicit false

namespace LayeredConfig

/-! ## Trees and their preorder -/

/-- An item with its document, and the items that the document names with theirs. -/
inductive Lineage where
  | node (name : String) (document : Document) (above : List Lineage)

namespace Lineage

mutual

/-- An item and its document, and then all those under it. -/
def preorder : Lineage → List (String × Document)
  | .node name document above => (name, document) :: preorderAll above

/-- The items of one tree after the other. -/
def preorderAll : List Lineage → List (String × Document)
  | [] => []
  | tree :: others => tree.preorder ++ preorderAll others

end

theorem preorderAll_eq_nil_iff {forest : List Lineage} : preorderAll forest = [] ↔ forest = [] := by
  cases forest with
  | nil => simp [preorderAll]
  | cons tree others =>
      obtain ⟨name, document, above⟩ := tree
      simp [preorderAll, preorder]

end Lineage

/-- The trees that were gathered. -/
def Ancestry.forest : Ancestry → List Lineage
  | .empty => []
  | .ancestor name document above others => .node name document above.forest :: others.forest

theorem Ancestry.names_eq_preorder (ancestry : Ancestry) :
    ancestry.names = (Lineage.preorderAll ancestry.forest).map Prod.fst := by
  induction ancestry with
  | empty => rfl
  | ancestor name document above others ihAbove ihOthers =>
      rw [names, forest, Lineage.preorderAll, Lineage.preorder, List.map_append, List.map_cons,
        ihAbove, ihOthers]
      rfl

namespace Loader

variable {loader : Loader} {base : String}

/-! ## Loading a tree -/

/-- The trees under declared names: each item with the document that is loaded for it when
everything before it has been loaded. -/
inductive Unfolds (loader : Loader) (base : String) :
    Except ConfigError (List String) → FileTree → List Lineage → FileTree → Prop where
  | nil (tree : FileTree) : Unfolds loader base (.ok []) tree [] tree
  | cons {name : String} {names : List String} {tree later middle final : FileTree}
      {parent : LoadedDocument} {above others : List Lineage}
      (load : (loader.load (locate base name)).after tree = (.ok (some parent), later))
      (inner : Unfolds loader base parent.document.ancestors later above middle)
      (rest : Unfolds loader base (.ok names) middle others final) :
      Unfolds loader base (.ok (name :: names)) tree (.node name parent.document above :: others)
        final

/-- Documents that are loaded one after the other. -/
inductive LoadsInTurn (loader : Loader) :
    FileTree → List (Location × Document) → FileTree → Prop where
  | nil (tree : FileTree) : LoadsInTurn loader tree [] tree
  | cons {location : Location} {tree later final : FileTree} {loaded : LoadedDocument}
      {others : List (Location × Document)}
      (load : (loader.load location).after tree = (.ok (some loaded), later))
      (rest : LoadsInTurn loader later others final) :
      LoadsInTurn loader tree ((location, loaded.document) :: others) final

theorem LoadsInTurn.append {tree middle final : FileTree}
    {first second : List (Location × Document)}
    (before : loader.LoadsInTurn tree first middle)
    (after : loader.LoadsInTurn middle second final) :
    loader.LoadsInTurn tree (first ++ second) final := by
  induction before with
  | nil tree => exact after
  | cons load rest ih => exact .cons load (ih after)

/-- What is loaded for some items, in their order. -/
def loadsOf (base : String) (items : List (String × Document)) : List (Location × Document) :=
  items.map fun item => (locate base item.1, item.2)

variable {declared : Except ConfigError (List String)} {tree final : FileTree}
  {forest : List Lineage}

/-- Names unfold in one way only. -/
theorem Unfolds.unique (unfolds : loader.Unfolds base declared tree forest final)
    {other : List Lineage} {last : FileTree}
    (another : loader.Unfolds base declared tree other last) : other = forest ∧ last = final := by
  induction unfolds generalizing other last with
  | nil tree =>
      cases another
      exact ⟨rfl, rfl⟩
  | cons load inner rest ihInner ihRest =>
      cases another with
      | cons loadToo innerToo restToo =>
          rw [load] at loadToo
          cases loadToo
          obtain ⟨rfl, rfl⟩ := ihInner innerToo
          obtain ⟨rfl, rfl⟩ := ihRest restToo
          exact ⟨rfl, rfl⟩

/-- The items of unfolded trees are loaded in preorder. -/
theorem Unfolds.loadsInTurn (unfolds : loader.Unfolds base declared tree forest final) :
    loader.LoadsInTurn tree (loadsOf base (Lineage.preorderAll forest)) final := by
  induction unfolds with
  | nil tree => exact .nil tree
  | cons load inner rest ihInner ihRest =>
      rw [Lineage.preorderAll, Lineage.preorder, loadsOf, List.map_append, List.map_cons]
      exact .cons load (ihInner.append ihRest)

theorem unfolds_of_gathers {chain : List String} {visits : List Visit}
    {outcome : Except ConfigError Ancestry}
    (gathered : loader.Gathers base chain declared tree visits outcome final) {ancestry : Ancestry}
    (success : outcome = .ok ancestry) :
    loader.Unfolds base declared tree ancestry.forest final := by
  induction gathered generalizing ancestry with
  | malformed chain error tree => cases success
  | empty chain tree =>
      cases success
      exact .nil tree
  | cyclic known => cases success
  | refused fresh load => cases success
  | missing fresh load => cases success
  | above fresh load inner ih => cases success
  | @ancestor chain name names tree later middle final parent visits others above outcome
      fresh load inner rest ihInner ihRest =>
      cases outcome with
      | error error => cases success
      | ok following =>
          cases success
          exact .cons load (ihInner rfl) (ihRest rfl)

/-- An expansion lists the items of the trees that its document unfolds to, in preorder. -/
theorem unfolds_of_expand {document : Document} {origin : Option Location} {expansion : Expansion}
    (expanded : (loader.expand base document origin).after tree = (.ok expansion, final)) :
    ∃ forest, loader.Unfolds base document.ancestors tree forest final ∧
      expansion.ancestors = (Lineage.preorderAll forest).map Prod.fst := by
  obtain ⟨visits, outcome, last, gathered⟩ :=
    loader.exists_gathers_of_document base document origin tree
  rw [after_expand_of_gathers gathered] at expanded
  cases outcome with
  | error error => cases expanded
  | ok ancestry =>
      cases expanded
      exact ⟨ancestry.forest, unfolds_of_gathers gathered rfl, ancestry.names_eq_preorder⟩

end Loader

end LayeredConfig
