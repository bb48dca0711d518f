import LayeredConfig.Proofs.Extends.Lineage
import LayeredConfig.Proofs.Resolution.Layers

/-!
# The sources of a run

The sources of a run tell what it was resolved from.  The first line names the primary document, or
says why there is none.  After it comes a line for every document that was loaded for what the run
extends, in the order in which these documents were loaded, and nothing else.
-/

set_option autoImplicit false

namespace LayeredConfig

theorem appendLines_eq_join (sources : String) (names : List String) :
    appendLines sources (names.map ancestorLine) =
      sources ++ String.join (names.map fun name => "\n- extends from: " ++ name) := by
  induction names generalizing sources with
  | nil => exact (String.append_empty).symm
  | cons name names ih =>
      have line : sources ++ "\n" ++ ancestorLine name =
          sources ++ ("\n- extends from: " ++ name) :=
        calc sources ++ "\n" ++ ("- extends from: " ++ name)
            = sources ++ ("\n" ++ ("- extends from: " ++ name)) := String.append_assoc
          _ = sources ++ ("\n" ++ "- extends from: " ++ name) :=
              congrArg (sources ++ ·) String.append_assoc.symm
      rw [List.map_cons, List.map_cons, String.join_cons, ← String.append_assoc, ← line]
      exact ih _

namespace Loader

variable {loader : Loader} {environment : Environment} {workspace : Option String}
  {parameters : Document} {tree later final : FileTree}

/-- The first line of the sources, with what the base of the run declares and the tree in which the
first of its ancestors is looked for. -/
inductive FirstLine (loader : Loader) (environment : Environment) (workspace : Option String)
    (parameters : Document) (tree : FileTree) :
    String → Except ConfigError (List String) → FileTree → Prop where
  | noWorkspace (given : workspace = none)
      (unnamed : namedDocument (upperLayers environment parameters) = none) :
      FirstLine loader environment workspace parameters tree
        "Environment variables only (no workspace)" (.ok []) tree
  | noDocument {directory : String} {later : FileTree} (given : workspace = some directory)
      (unnamed : namedDocument (upperLayers environment parameters) = none)
      (absent : (loader.load (discover tree directory)).after tree = (.ok none, later)) :
      FirstLine loader environment workspace parameters tree
        ("Environment variables only (no config file found in " ++ directory ++ ")")
        (Document.ancestors (upperLayers environment parameters)) later
  | document {primary : LoadedDocument} {later : FileTree}
      (based : ¬ (workspace = none ∧ namedDocument (upperLayers environment parameters) = none))
      (load : (loader.load (primaryLocation tree (workspace.getD defaultWorkspace)
        (namedDocument (upperLayers environment parameters)))).after tree =
          (.ok (some primary), later)) :
      FirstLine loader environment workspace parameters tree
        (primary.path ++ " + Environment variables")
        (Document.ancestors (primary.document.merge (upperLayers environment parameters))) later

theorem firstLine_of_loadBase {base : Base}
    (based : ¬ (workspace = none ∧ namedDocument (upperLayers environment parameters) = none))
    (loaded : (loader.loadBase (workspace.getD defaultWorkspace)
      (namedDocument (upperLayers environment parameters))
      (upperLayers environment parameters)).after tree = (.ok base, later)) :
    loader.FirstLine environment workspace parameters tree base.sources base.document.ancestors
      later := by
  rw [after_loadBase] at loaded
  rcases load : (loader.load (primaryLocation tree (workspace.getD defaultWorkspace)
    (namedDocument (upperLayers environment parameters)))).after tree with
    ⟨error | _ | primary, middle⟩
  · rw [load] at loaded
    cases loaded
  · rw [load] at loaded
    cases named : namedDocument (upperLayers environment parameters) with
    | some name =>
        rw [named] at loaded
        cases loaded
    | none =>
        rw [named] at loaded load
        cases loaded
        cases given : workspace with
        | none => exact absurd ⟨given, named⟩ based
        | some directory =>
            rw [given] at load
            exact .noDocument rfl named load
  · rw [load] at loaded
    cases loaded
    exact .document based load

theorem sources_of_expandBase_eq {directory : String} {base : Base} {run : RunConfig}
    (expanded : (loader.expandBase directory base).after tree = (.ok run, final)) :
    ∃ forest, loader.Unfolds directory base.document.ancestors tree forest final ∧
      run.sources = appendLines base.sources
        (((Lineage.preorderAll forest).map Prod.fst).map ancestorLine) := by
  cases extending : base.document.contains extendsKey with
  | false =>
      rw [after_expandBase_of_not_contains extending] at expanded
      cases expanded
      rw [ancestors_of_not_contains extending]
      exact ⟨[], .nil tree, rfl⟩
  | true =>
      rw [after_expandBase_of_contains extending] at expanded
      rcases result : (loader.expand directory base.document base.origin).after tree with
        ⟨error | expansion, last⟩
      · rw [result] at expanded
        cases expanded
      · rw [result] at expanded
        cases expanded
        obtain ⟨forest, unfolds, listed⟩ := unfolds_of_expand result
        exact ⟨forest, unfolds, by rw [Expansion.lines, listed]⟩

theorem sources_of_resolve_eq {run : RunConfig}
    (resolved : (loader.resolve environment workspace parameters).after tree = (.ok run, final)) :
    ∃ line declared found forest,
      loader.FirstLine environment workspace parameters tree line declared found ∧
      loader.Unfolds (workspace.getD defaultWorkspace) declared found forest final ∧
      run.sources = appendLines line
        (((Lineage.preorderAll forest).map Prod.fst).map ancestorLine) := by
  by_cases bare :
      workspace = none ∧ namedDocument (upperLayers environment parameters) = none
  · obtain ⟨rfl, unnamed⟩ := bare
    rw [after_resolve_of_none unnamed] at resolved
    cases resolved
    exact ⟨_, _, _, [], .noWorkspace rfl unnamed, .nil _, rfl⟩
  · rw [after_resolve_of_some bare] at resolved
    rcases loaded : (loader.loadBase (workspace.getD defaultWorkspace)
      (namedDocument (upperLayers environment parameters))
      (upperLayers environment parameters)).after tree with ⟨error | base, later⟩
    · rw [loaded] at resolved
      cases resolved
    · rw [loaded] at resolved
      obtain ⟨forest, unfolds, sources⟩ := sources_of_expandBase_eq resolved
      exact ⟨_, _, _, forest, firstLine_of_loadBase bare loaded, unfolds, sources⟩

theorem join_lines_eq_empty_iff {forest : List Lineage} :
    String.join ((Lineage.preorderAll forest).map fun item => "\n- extends from: " ++ item.1) = "" ↔
      forest = [] := by
  rw [← Lineage.preorderAll_eq_nil_iff]
  cases Lineage.preorderAll forest with
  | nil => exact iff_of_true rfl rfl
  | cons item items =>
      refine iff_of_false ?_ (List.cons_ne_nil _ _)
      rw [List.map_cons, String.join_cons]
      intro empty
      have none := (String.append_eq_empty_iff.mp (String.append_eq_empty_iff.mp empty).1).1
      exact absurd none (by decide)

/-- The lines of an expansion are those of the items of its tree in preorder, which is the order in
which their documents are loaded.  The sources of a run are the first line and these lines, and are
the first line alone when there is no item. -/
theorem sources_are_preorder (loader : Loader) :
    (∀ base document origin tree expansion final,
      (loader.expand base document origin).after tree = (.ok expansion, final) →
        ∃ forest, loader.Unfolds base document.ancestors tree forest final ∧
          (∀ other last, loader.Unfolds base document.ancestors tree other last → other = forest) ∧
          loader.LoadsInTurn tree (loadsOf base (Lineage.preorderAll forest)) final ∧
          expansion.lines =
            (Lineage.preorderAll forest).map fun item => "- extends from: " ++ item.1) ∧
    ∀ environment workspace parameters tree run final,
      (loader.resolve environment workspace parameters).after tree = (.ok run, final) →
        ∃ line declared found forest,
          loader.FirstLine environment workspace parameters tree line declared found ∧
          loader.Unfolds (workspace.getD defaultWorkspace) declared found forest final ∧
          loader.LoadsInTurn found
            (loadsOf (workspace.getD defaultWorkspace) (Lineage.preorderAll forest)) final ∧
          run.sources = line ++ String.join
            ((Lineage.preorderAll forest).map fun item => "\n- extends from: " ++ item.1) ∧
          (run.sources = line ↔ forest = []) := by
  constructor
  · intro base document origin tree expansion final expanded
    obtain ⟨forest, unfolds, listed⟩ := unfolds_of_expand expanded
    refine ⟨forest, unfolds, ?_, unfolds.loadsInTurn, ?_⟩
    · intro other last another
      exact (unfolds.unique another).1
    · rw [Expansion.lines, listed, List.map_map]
      rfl
  · intro environment workspace parameters tree run final resolved
    obtain ⟨line, declared, found, forest, first, unfolds, sources⟩ :=
      sources_of_resolve_eq resolved
    rw [appendLines_eq_join, List.map_map] at sources
    refine ⟨line, declared, found, forest, first, unfolds, unfolds.loadsInTurn, sources, ?_⟩
    rw [sources, String.append_eq_left_iff]
    exact join_lines_eq_empty_iff

/-- An item that is met twice has two lines.  A run with one ancestor has one line after the
first. -/
theorem sources_are_preorder_diamond :
    (offline.expand "/w" diamondDocument none).after diamondFiles =
        (.ok diamondExpansion, diamondFiles) ∧
      (offline.resolve workspaceEnvironment (some "/w") workspaceParameters).after workspaceFiles =
        (.ok workspaceRun, workspaceFiles) ∧
      (∃ forest,
        offline.Unfolds "/w" diamondDocument.ancestors diamondFiles forest diamondFiles ∧
        (Lineage.preorderAll forest).map (fun item => "- extends from: " ++ item.1) =
          ["- extends from: left.yml", "- extends from: top.yml", "- extends from: right.yml",
            "- extends from: top.yml"]) ∧
      ∃ line declared found forest,
        offline.FirstLine workspaceEnvironment (some "/w") workspaceParameters workspaceFiles line
          declared found ∧
        offline.Unfolds "/w" declared found forest workspaceFiles ∧
        workspaceRun.sources = line ++ String.join
          ((Lineage.preorderAll forest).map fun item => "\n- extends from: " ++ item.1) := by
  have expanded : (offline.expand "/w" diamondDocument none).after diamondFiles =
      (.ok diamondExpansion, diamondFiles) := by
    decide +kernel
  have resolved : (offline.resolve workspaceEnvironment (some "/w") workspaceParameters).after
      workspaceFiles = (.ok workspaceRun, workspaceFiles) := by
    decide +kernel
  obtain ⟨ofExpansion, ofRun⟩ := sources_are_preorder offline
  obtain ⟨forest, unfolds, -, -, lines⟩ := ofExpansion _ _ _ _ _ _ expanded
  obtain ⟨line, declared, found, others, first, unfoldsToo, -, sources, -⟩ :=
    ofRun _ _ _ _ _ _ resolved
  have listed : diamondExpansion.lines =
      ["- extends from: left.yml", "- extends from: top.yml", "- extends from: right.yml",
        "- extends from: top.yml"] := by
    decide +kernel
  exact ⟨expanded, resolved, ⟨forest, unfolds, lines.symm.trans listed⟩, line, declared, found,
    others, first, unfoldsToo, sources⟩

end Loader

end LayeredConfig
