import LayeredConfig.Proofs.Extends.Flattening
import LayeredConfig.Resolution

/-!
# The layers of a run

A resolved document answers every key from the first layer that has it: the parameters, the
environment, the primary document, and the flattened ancestors of what these three amount to.
-/

set_option autoImplicit false

namespace LayeredConfig

theorem get?_upperLayers (environment : Environment) (parameters : Document) (key : String) :
    (upperLayers environment parameters).get? key =
      (parameters.get? key).or ((environment.get? key).map Value.text) := by
  rw [upperLayers, Mapping.get?_merge, Environment.document, Mapping.get?_mapEntries]

namespace Loader

variable {loader : Loader} {source : Source} {directory : String} {base : Base}
  {tree later : FileTree}

/-- What the primary location yields.  A run without workspace and without named document has
none. -/
def primaryDocument (loader : Loader) (tree : FileTree) (workspace named : Option String) :
    Except ConfigError (Option Document) :=
  if workspace = none ∧ named = none then .ok none
  else loader.documentAt tree (primaryLocation tree (workspace.getD defaultWorkspace) named)

/-- All documents that are loaded after the primary document are those of the source. -/
def SteadyRun (loader : Loader) (environment : Environment) (workspace : Option String)
    (parameters : Document) (tree : FileTree) (source : Source) : Prop :=
  ¬ (workspace = none ∧ namedDocument (upperLayers environment parameters) = none) →
    ∀ base later,
      (loader.loadBase (workspace.getD defaultWorkspace)
        (namedDocument (upperLayers environment parameters))
        (upperLayers environment parameters)).after tree = (.ok base, later) →
      loader.Steady (workspace.getD defaultWorkspace) (startingChain later base.origin)
        base.document.ancestors later source

theorem primary_of_loadBase {named : Option String} {upper : Document}
    (run : (loader.loadBase directory named upper).after tree = (.ok base, later)) :
    ∃ primary,
      loader.documentAt tree (primaryLocation tree directory named) = .ok primary ∧
      base.document = (primary.getD ∅).merge upper := by
  rw [after_loadBase] at run
  rcases load : (loader.load (primaryLocation tree directory named)).after tree with
    ⟨error | _ | primary, middle⟩
  · rw [load] at run
    cases run
  · rw [load] at run
    cases named with
    | none =>
        cases run
        refine ⟨none, documentAt_of_load load, ?_⟩
        rw [Option.getD_none, Mapping.empty_merge]
    | some name => cases run
  · rw [load] at run
    cases run
    exact ⟨some primary.document, documentAt_of_load load, rfl⟩

theorem flattens_of_expandBase {run : RunConfig}
    (steady : loader.Steady directory (startingChain tree base.origin) base.document.ancestors tree
      source)
    (expanded : ((loader.expandBase directory base).after tree).1 = .ok run) :
    ∃ under, Flattens source directory base.document.ancestors under ∧
      run.document = under.merge base.document := by
  cases extending : base.document.contains extendsKey with
  | false =>
      rw [after_expandBase_of_not_contains extending] at expanded
      cases expanded
      rw [ancestors_of_not_contains extending]
      exact ⟨∅, .empty, (Mapping.empty_merge _).symm⟩
  | true =>
      rw [after_expandBase_of_contains extending] at expanded
      rcases result : (loader.expand directory base.document base.origin).after tree with
        ⟨error | expansion, final⟩
      · rw [result] at expanded
        cases expanded
      · rw [result] at expanded
        cases expanded
        exact flattens_of_expand steady (congrArg Prod.fst result)

theorem tree_of_loadBase_of_unreachable (offline : loader.network = .unreachable)
    {named : Option String} {upper : Document} {result : Except ConfigError Base}
    (loaded : (loader.loadBase directory named upper).after tree = (result, later)) :
    later = tree := by
  rw [after_loadBase] at loaded
  rcases load : (loader.load (primaryLocation tree directory named)).after tree with
    ⟨error | _ | primary, middle⟩
  · rw [load] at loaded
    cases loaded
    exact tree_of_load_of_unreachable offline load
  · rw [load] at loaded
    cases named <;> cases loaded <;> exact tree_of_load_of_unreachable offline load
  · rw [load] at loaded
    cases loaded
    exact tree_of_load_of_unreachable offline load

theorem steadyRun_of_unreachable (offline : loader.network = .unreachable)
    {environment : Environment} {workspace : Option String} {parameters : Document} :
    loader.SteadyRun environment workspace parameters tree (loader.documentAt tree) := by
  intro _ base later loaded
  rw [tree_of_loadBase_of_unreachable offline loaded]
  exact steady_of_unreachable offline

/-- The value of a key in a resolved document comes from the highest layer that has the key.  The
base is the three upper layers; the lowest layer is what the base extends.  A run without workspace
and without named document extends nothing. -/
theorem get?_of_resolve {environment : Environment} {workspace : Option String}
    {parameters : Document} {run : RunConfig}
    (steady : loader.SteadyRun environment workspace parameters tree source)
    (resolved : ((loader.resolve environment workspace parameters).after tree).1 = .ok run) :
    ∃ primary base under,
      loader.primaryDocument tree workspace
        (namedDocument (upperLayers environment parameters)) = .ok primary ∧
      (∀ key, Mapping.get? base key =
        (parameters.get? key).or (((environment.get? key).map Value.text).or
          (primary.bind fun document => document.get? key))) ∧
      (if workspace = none ∧ namedDocument (upperLayers environment parameters) = none then
          under = ∅ ∧ run.document = environment.document.merge parameters
        else Flattens source (workspace.getD defaultWorkspace) (Document.ancestors base) under) ∧
      ∀ key, run.document.get? key = (base.get? key).or (under.get? key) := by
  by_cases bare :
      workspace = none ∧ namedDocument (upperLayers environment parameters) = none
  · obtain ⟨rfl, unnamed⟩ := bare
    rw [after_resolve_of_none unnamed] at resolved
    cases resolved
    refine ⟨none, upperLayers environment parameters, ∅, ?_, ?_, ?_, ?_⟩
    · rw [primaryDocument, if_pos ⟨rfl, unnamed⟩]
    · intro key
      rw [get?_upperLayers, Option.bind_none, Option.or_none]
    · rw [if_pos ⟨rfl, unnamed⟩]
      exact ⟨rfl, rfl⟩
    · intro key
      rw [Mapping.get?_empty, Option.or_none]
  · rw [after_resolve_of_some bare] at resolved
    rcases loaded : (loader.loadBase (workspace.getD defaultWorkspace)
      (namedDocument (upperLayers environment parameters))
      (upperLayers environment parameters)).after tree with ⟨error | base, later⟩
    · rw [loaded] at resolved
      cases resolved
    · rw [loaded] at resolved
      obtain ⟨primary, found, layered⟩ := primary_of_loadBase loaded
      obtain ⟨under, flattens, same⟩ :=
        flattens_of_expandBase (steady bare base later loaded) resolved
      refine ⟨primary, base.document, under, ?_, ?_, ?_, ?_⟩
      · rw [primaryDocument, if_neg bare]
        exact found
      · intro key
        rw [layered, Mapping.get?_merge, get?_upperLayers, Option.or_assoc]
        cases primary <;> rfl
      · rw [if_neg bare]
        exact flattens
      · intro key
        rw [same, Mapping.get?_merge]

def workspaceFiles : FileTree where
  entries :=
    [(["w"], .directory),
      ([".mega-linter.yml", "w"], .file (Text.bytesOf "EXTENDS: top.yml\nA: file\nB: file\n")),
      (["top.yml", "w"], .file (Text.bytesOf "A: top\nB: top\nC: top\nD: top\n"))]
  current := []

def workspaceEnvironment : Environment :=
  Mapping.ofList [("A", "environment"), ("B", "environment")]

def workspaceParameters : Document :=
  Mapping.ofList [("A", .text "parameter"), ("C", .text "parameter")]

/-- Every key has the value of its highest layer. -/
def workspaceRun : RunConfig where
  document := Mapping.ofList
    [("A", .text "parameter"), ("B", .text "environment"), ("C", .text "parameter"),
      ("D", .text "top"), ("EXTENDS", .text "top.yml")]
  sources := "/w/.mega-linter.yml + Environment variables\n- extends from: top.yml"

theorem get?_of_resolve_workspace :
    offline.SteadyRun workspaceEnvironment (some "/w") workspaceParameters workspaceFiles
        (offline.documentAt workspaceFiles) ∧
      ((offline.resolve workspaceEnvironment (some "/w") workspaceParameters).after
        workspaceFiles).1 = .ok workspaceRun ∧
      ∃ primary base under,
        offline.primaryDocument workspaceFiles (some "/w") none = .ok primary ∧
        (∀ key, Mapping.get? base key =
          (workspaceParameters.get? key).or (((workspaceEnvironment.get? key).map Value.text).or
            (primary.bind fun document => document.get? key))) ∧
        Flattens (offline.documentAt workspaceFiles) "/w" (Document.ancestors base) under ∧
        ∀ key, workspaceRun.document.get? key = (Mapping.get? base key).or (under.get? key) := by
  have steady : offline.SteadyRun workspaceEnvironment (some "/w") workspaceParameters
      workspaceFiles (offline.documentAt workspaceFiles) :=
    steadyRun_of_unreachable rfl
  have resolved : ((offline.resolve workspaceEnvironment (some "/w") workspaceParameters).after
      workspaceFiles).1 = .ok workspaceRun := by
    decide +kernel
  obtain ⟨primary, base, under, found, layered, flattens, answers⟩ :=
    get?_of_resolve steady resolved
  have unnamed : namedDocument (upperLayers workspaceEnvironment workspaceParameters) = none := by
    decide +kernel
  rw [unnamed] at found
  rw [if_neg (by simp)] at flattens
  exact ⟨steady, resolved, primary, base, under, found, layered, flattens, answers⟩

end Loader

end LayeredConfig
