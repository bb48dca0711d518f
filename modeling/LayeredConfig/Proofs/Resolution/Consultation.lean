import LayeredConfig.Proofs.Extends.Encounters
import LayeredConfig.Proofs.Resolution.Layers

/-!
# What a resolution depends on

A resolution looks for the conventional files up to the first that is there, unless a document is
named; it loads the primary document, and then comes to the items that the base extends.  It depends
on nothing in the tree but the places on the paths of these.
-/

set_option autoImplicit false

namespace LayeredConfig

open Files

theorem find?_eq_of_reached {α : Type} {first second : α → Bool} (list : List α)
    (same : ∀ before item after, list = before ++ item :: after →
      (∀ earlier ∈ before, first earlier = false) → second item = first item) :
    list.find? second = list.find? first := by
  induction list with
  | nil => rfl
  | cons item list ih =>
      have sameHere : second item = first item := same [] item list rfl (by simp)
      rw [List.find?_cons, List.find?_cons, sameHere]
      cases found : first item with
      | true => rfl
      | false =>
          apply ih
          intro before later after split passed
          apply same (item :: before) later after
          · rw [split, List.cons_append]
          · exact List.forall_mem_cons.mpr ⟨found, passed⟩

namespace Loader

/-- The locations that a resolution comes to, each with the tree that it finds: the candidates for
the primary document, that document, and the items of what is extended. -/
inductive Consults (loader : Loader) (environment : Environment) (workspace : Option String)
    (parameters : Document) (tree : FileTree) : Location → FileTree → Prop where
  | candidate {directory name : String} {before after : List String}
      (unnamed : namedDocument (upperLayers environment parameters) = none)
      (given : workspace = some directory)
      (listed : candidates = before ++ name :: after)
      (passed : ∀ earlier ∈ before, tree.isFile (joinPath directory earlier) = false) :
      Consults loader environment workspace parameters tree (.file (joinPath directory name)) tree
  | primary
      (based : ¬ (workspace = none ∧ namedDocument (upperLayers environment parameters) = none)) :
      Consults loader environment workspace parameters tree
        (primaryLocation tree (workspace.getD defaultWorkspace)
          (namedDocument (upperLayers environment parameters))) tree
  | item {base : Base} {later found : FileTree} {location : Location}
      (based : ¬ (workspace = none ∧ namedDocument (upperLayers environment parameters) = none))
      (loaded : (loader.loadBase (workspace.getD defaultWorkspace)
        (namedDocument (upperLayers environment parameters))
        (upperLayers environment parameters)).after tree = (.ok base, later))
      (met : loader.Meets (workspace.getD defaultWorkspace) (startingChain later base.origin)
        base.document.ancestors later location found) :
      Consults loader environment workspace parameters tree location found

variable {loader : Loader} {places loose : Place → Prop} {tree other : FileTree}

theorem discover_eq_of_reached {directory : String}
    (same : ∀ before name after, candidates = before ++ name :: after →
      (∀ earlier ∈ before, tree.isFile (joinPath directory earlier) = false) →
        other.isFile (joinPath directory name) = tree.isFile (joinPath directory name)) :
    discover other directory = discover tree directory := by
  have sameFirst : candidates.find? (other.isFile ∘ joinPath directory) =
      candidates.find? (tree.isFile ∘ joinPath directory) :=
    find?_eq_of_reached candidates same
  simp only [discover, List.find?_map, sameFirst]

/-- The primary document is loaded alike in two trees in which its location and what it yields are
the same. -/
theorem after_loadBase_of_load {directory : String} {named : Option String} (upper : Document)
    {result : Except ConfigError (Option LoadedDocument)} {later last : FileTree}
    (sameLocation : primaryLocation other directory named = primaryLocation tree directory named)
    (sameIdentity : (primaryLocation tree directory named).identity other =
      (primaryLocation tree directory named).identity tree)
    (loaded : (loader.load (primaryLocation tree directory named)).after tree = (result, later))
    (loadedToo : (loader.load (primaryLocation tree directory named)).after other =
      (result, last)) :
    ∃ based,
      (loader.loadBase directory named upper).after tree = (based, later) ∧
      (loader.loadBase directory named upper).after other = (based, last) ∧
      ∀ base, based = .ok base →
        startingChain last base.origin = startingChain later base.origin := by
  -- Loading keeps the identity of the primary location in both trees.
  have sameLater : (primaryLocation tree directory named).identity last =
      (primaryLocation tree directory named).identity later := by
    have kept := loader.identity_load (primaryLocation tree directory named) tree
    have keptToo := loader.identity_load (primaryLocation tree directory named) other
    rw [loaded] at kept
    rw [loadedToo] at keptToo
    rw [kept, keptToo, sameIdentity]
  rw [after_loadBase, after_loadBase, sameLocation, loaded, loadedToo]
  rcases result with error | _ | primary
  · exact ⟨_, rfl, rfl, fun base failed => by cases failed⟩
  · cases named with
    | some name => exact ⟨_, rfl, rfl, fun base failed => by cases failed⟩
    | none =>
        refine ⟨_, rfl, rfl, ?_⟩
        intro base built
        cases built
        rw [startingChain, startingChain, Option.map_none, Option.map_none]
  · refine ⟨_, rfl, rfl, ?_⟩
    intro base built
    cases built
    rw [startingChain, startingChain, Option.map_some, Option.map_some, sameLater]

theorem after_loadBase_of_spares {directory : String} {named : Option String} {upper : Document}
    (differs : tree.DiffersAt places loose other)
    (sameLocation : primaryLocation other directory named = primaryLocation tree directory named)
    (spares : (primaryLocation tree directory named).Spares loader places loose tree) :
    ∃ result later last,
      (loader.loadBase directory named upper).after tree = (result, later) ∧
      (loader.loadBase directory named upper).after other = (result, last) ∧
      later.DiffersAt places loose last ∧
      ∀ base, result = .ok base →
        startingChain last base.origin = startingChain later base.origin := by
  obtain ⟨result, later, last, loaded, loadedToo, differsLater⟩ :=
    after_load_of_spares spares differs
  obtain ⟨based, run, runToo, sameOrigin⟩ :=
    after_loadBase_of_load upper sameLocation (spares.identity_eq differs) loaded loadedToo
  exact ⟨based, later, last, run, runToo, differsLater, sameOrigin⟩

theorem after_expandBase_of_spares {directory : String} {base : Base}
    (differs : tree.DiffersAt places loose other)
    (sameOrigin : startingChain other base.origin = startingChain tree base.origin)
    (spares : ∀ location found,
      loader.Meets directory (startingChain tree base.origin) base.document.ancestors tree location
        found → location.Spares loader places loose found) :
    ∃ result later last,
      (loader.expandBase directory base).after tree = (result, later) ∧
      (loader.expandBase directory base).after other = (result, last) ∧
      later.DiffersAt places loose last := by
  cases extending : base.document.contains extendsKey with
  | false =>
      rw [after_expandBase_of_not_contains extending, after_expandBase_of_not_contains extending]
      exact ⟨_, tree, other, rfl, rfl, differs⟩
  | true =>
      rw [after_expandBase_of_contains extending, after_expandBase_of_contains extending]
      obtain ⟨result, later, last, expanded, expandedToo, differsLater⟩ :=
        after_expand_of_spares differs sameOrigin spares
      rw [expanded, expandedToo]
      cases result with
      | error error => exact ⟨_, later, last, rfl, rfl, differsLater⟩
      | ok expansion => exact ⟨_, later, last, rfl, rfl, differsLater⟩

theorem growth_loadBase (loader : Loader) (directory : String) (named : Option String)
    (upper : Document) (tree : FileTree) :
    tree.Growth ((loader.loadBase directory named upper).after tree).2 := by
  have loaded := loader.growth_load (primaryLocation tree directory named) tree
  rw [after_loadBase]
  rcases load : (loader.load (primaryLocation tree directory named)).after tree with
    ⟨error | _ | primary, later⟩ <;> rw [load] at loaded
  · exact loaded
  · cases named <;> exact loaded
  · exact loaded

theorem growth_expandBase (loader : Loader) (directory : String) (base : Base)
    (tree : FileTree) : tree.Growth ((loader.expandBase directory base).after tree).2 := by
  cases extending : base.document.contains extendsKey with
  | false =>
      rw [after_expandBase_of_not_contains extending]
      exact .refl tree
  | true =>
      have expanded := loader.growth_expand directory base.document base.origin tree
      rw [after_expandBase_of_contains extending]
      rcases result : (loader.expand directory base.document base.origin).after tree with
        ⟨error | expansion, later⟩ <;> rw [result] at expanded <;> exact expanded

section Resolve

variable {environment : Environment} {workspace : Option String} {parameters : Document}

/-- The primary document is at the same location where everything that is looked for is a file in
both trees or in neither. -/
theorem primaryLocation_eq_of_consulted
    (based : ¬ (workspace = none ∧ namedDocument (upperLayers environment parameters) = none))
    (same : ∀ path, loader.Consults environment workspace parameters tree (.file path) tree →
      other.isFile path = tree.isFile path) :
    primaryLocation other (workspace.getD defaultWorkspace)
        (namedDocument (upperLayers environment parameters)) =
      primaryLocation tree (workspace.getD defaultWorkspace)
        (namedDocument (upperLayers environment parameters)) := by
  cases named : namedDocument (upperLayers environment parameters) with
  | some name => rfl
  | none =>
      cases given : workspace with
      | none => exact absurd ⟨given, named⟩ based
      | some directory =>
          apply discover_eq_of_reached
          intro before name after listed passed
          exact same _ (.candidate named given listed passed)

/-- A resolution lets the tree grow, whether it succeeds or fails. -/
theorem growth_resolve (loader : Loader) (environment : Environment) (workspace : Option String)
    (parameters : Document) (tree : FileTree) :
    tree.Growth ((loader.resolve environment workspace parameters).after tree).2 := by
  by_cases bare :
      workspace = none ∧ namedDocument (upperLayers environment parameters) = none
  · obtain ⟨rfl, unnamed⟩ := bare
    rw [after_resolve_of_none unnamed]
    exact .refl tree
  · have loaded := loader.growth_loadBase (workspace.getD defaultWorkspace)
      (namedDocument (upperLayers environment parameters)) (upperLayers environment parameters) tree
    rw [after_resolve_of_some bare]
    rcases result : (loader.loadBase (workspace.getD defaultWorkspace)
      (namedDocument (upperLayers environment parameters))
      (upperLayers environment parameters)).after tree with ⟨error | base, later⟩ <;>
      rw [result] at loaded
    · exact loaded
    · exact loaded.trans (loader.growth_expandBase _ base later)

/-- A resolution comes to the same in two trees that differ at places which everything that it
consults spares, and the trees differ at the same places afterwards. -/
theorem after_resolve_of_spares (differs : tree.DiffersAt places loose other)
    (spares : ∀ location found,
      loader.Consults environment workspace parameters tree location found →
        location.Spares loader places loose found) :
    ∃ result later last,
      (loader.resolve environment workspace parameters).after tree = (result, later) ∧
      (loader.resolve environment workspace parameters).after other = (result, last) ∧
      later.DiffersAt places loose last := by
  by_cases bare :
      workspace = none ∧ namedDocument (upperLayers environment parameters) = none
  · obtain ⟨rfl, unnamed⟩ := bare
    rw [after_resolve_of_none unnamed, after_resolve_of_none unnamed]
    exact ⟨_, tree, other, rfl, rfl, differs⟩
  · rw [after_resolve_of_some bare, after_resolve_of_some bare]
    obtain ⟨result, later, last, loaded, loadedToo, differsLater, sameOrigin⟩ :=
      after_loadBase_of_spares differs
        (primaryLocation_eq_of_consulted bare fun path consulted =>
          differs.isFile_eq (spares _ _ consulted))
        (spares _ _ (.primary bare))
    rw [loaded, loadedToo]
    cases result with
    | error error => exact ⟨_, later, last, rfl, rfl, differsLater⟩
    | ok base =>
        exact after_expandBase_of_spares differsLater (sameOrigin base rfl)
          fun location found met => spares location found (.item bare loaded met)

end Resolve

/-! ## Without network -/

theorem tree_of_expand_of_unreachable (offline : loader.network = .unreachable) (base : String)
    (document : Document) (origin : Option Location) (tree : FileTree) :
    ((loader.expand base document origin).after tree).2 = tree := by
  obtain ⟨visits, outcome, final, gathered⟩ :=
    loader.exists_gathers_of_document base document origin tree
  rw [after_expand_of_gathers gathered, (finds_of_unreachable offline gathered).1]

/-- A resolution without network leaves all files as they are. -/
theorem tree_of_resolve_of_unreachable (offline : loader.network = .unreachable)
    (environment : Environment) (workspace : Option String) (parameters : Document)
    (tree : FileTree) :
    ((loader.resolve environment workspace parameters).after tree).2 = tree := by
  by_cases bare :
      workspace = none ∧ namedDocument (upperLayers environment parameters) = none
  · obtain ⟨rfl, unnamed⟩ := bare
    rw [after_resolve_of_none unnamed]
  · rw [after_resolve_of_some bare]
    rcases loaded : (loader.loadBase (workspace.getD defaultWorkspace)
      (namedDocument (upperLayers environment parameters))
      (upperLayers environment parameters)).after tree with ⟨error | base, later⟩
    · exact tree_of_loadBase_of_unreachable offline loaded
    · obtain rfl := tree_of_loadBase_of_unreachable offline loaded
      cases extending : base.document.contains extendsKey with
      | false => simp only [after_expandBase_of_not_contains extending]
      | true =>
          have same := tree_of_expand_of_unreachable offline (workspace.getD defaultWorkspace)
            base.document base.origin later
          simp only [after_expandBase_of_contains extending]
          rcases expanded : (loader.expand (workspace.getD defaultWorkspace) base.document
            base.origin).after later with ⟨error | expansion, final⟩ <;>
            rw [expanded] at same <;> exact same

end Loader

end LayeredConfig
