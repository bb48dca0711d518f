import LayeredConfig.Proofs.Resolution.Layers
import LayeredConfig.Proofs.Extends.Termination
import LayeredConfig.Session

/-!
# Initialisation in steps

Parameters are the highest layer of a run, and all but two of them steer nothing: they stay on top
of whatever is loaded and decide nothing about it.  A request that is initialised again lays the new
parameters over the document that it has.  So parameters that come later in any number of steps lead
to the session in which they had come first, all at once.
-/

set_option autoImplicit false

namespace LayeredConfig

/-! ## Parameters on top -/

/-- Parameters that steer no resolution: they name no document and no ancestors. -/
structure Passive (parameters : Document) : Prop where
  extendsNothing : Mapping.get? parameters extendsKey = none
  namesNothing : Mapping.get? parameters documentKey = none

theorem Passive.empty : Passive ∅ := ⟨rfl, rfl⟩

theorem Passive.merge {low high : Document} (below : Passive low) (above : Passive high) :
    Passive (low.merge high) := by
  refine ⟨?_, ?_⟩
  · rw [Mapping.get?_merge_of_none above.extendsNothing, below.extendsNothing]
  · rw [Mapping.get?_merge_of_none above.namesNothing, below.namesNothing]

theorem Document.ancestors_merge {parameters : Document} (passive : Passive parameters)
    (document : Document) :
    Document.ancestors (document.merge parameters) = document.ancestors := by
  rw [Document.ancestors, Document.ancestors, Mapping.get?_merge_of_none passive.extendsNothing]

theorem Document.contains_merge {parameters : Document} (passive : Passive parameters)
    (document : Document) :
    (document.merge parameters).contains extendsKey = document.contains extendsKey := by
  rw [Mapping.contains, Mapping.contains, Mapping.get?_merge_of_none passive.extendsNothing]

theorem namedDocument_merge {parameters : Document} (passive : Passive parameters)
    (upper : Document) : namedDocument (upper.merge parameters) = namedDocument upper := by
  rw [namedDocument, namedDocument, Mapping.get?_merge_of_none passive.namesNothing]

theorem upperLayers_merge (environment : Environment) (parameters more : Document) :
    upperLayers environment (parameters.merge more) =
      (upperLayers environment parameters).merge more := by
  rw [upperLayers, upperLayers, Mapping.merge_assoc]

def Expansion.under (parameters : Document) (expansion : Expansion) : Expansion :=
  { expansion with document := expansion.document.merge parameters }

def Base.under (parameters : Document) (base : Base) : Base :=
  { base with document := base.document.merge parameters }

def RunConfig.under (parameters : Document) (run : RunConfig) : RunConfig :=
  { run with document := run.document.merge parameters }

theorem RunConfig.under_empty (run : RunConfig) : run.under ∅ = run := by
  rw [RunConfig.under, Mapping.merge_empty]

theorem RunConfig.under_under (run : RunConfig) (low high : Document) :
    (run.under low).under high = run.under (low.merge high) := by
  simp only [RunConfig.under, Mapping.merge_assoc]

namespace Loader

variable {loader : Loader} {parameters : Document}

/-- Whatever is gathered for a document is gathered for it under parameters as well. -/
theorem after_expand_merge (passive : Passive parameters) (loader : Loader) (base : String)
    (document : Document) (origin : Option Location) (tree : FileTree) :
    (loader.expand base (document.merge parameters) origin).after tree =
      (((loader.expand base document origin).after tree).1.map (Expansion.under parameters),
        ((loader.expand base document origin).after tree).2) := by
  obtain ⟨visits, outcome, final, gathered⟩ :=
    loader.exists_gathers_of_document base document origin tree
  -- Only the ancestors of a document steer a gathering, and the parameters leave them as they are.
  have same := gathered
  rw [← Document.ancestors_merge passive] at same
  rw [after_expand_of_gathers gathered, after_expand_of_gathers same]
  cases outcome with
  | error error => rfl
  | ok ancestry =>
      simp only [Except.map, Ancestry.expansion, Expansion.under, Mapping.merge_assoc]

theorem after_loadBase_merge (loader : Loader) (directory : String) (named : Option String)
    (upper parameters : Document) (tree : FileTree) :
    (loader.loadBase directory named (upper.merge parameters)).after tree =
      (((loader.loadBase directory named upper).after tree).1.map (Base.under parameters),
        ((loader.loadBase directory named upper).after tree).2) := by
  rw [after_loadBase, after_loadBase]
  rcases (loader.load (primaryLocation tree directory named)).after tree with
    ⟨error | _ | primary, later⟩
  · rfl
  · cases named <;> rfl
  · simp only [Except.map, Base.under, Mapping.merge_assoc]

theorem after_expandBase_under (passive : Passive parameters) (loader : Loader)
    (directory : String) (base : Base) (tree : FileTree) :
    (loader.expandBase directory (base.under parameters)).after tree =
      (((loader.expandBase directory base).after tree).1.map (RunConfig.under parameters),
        ((loader.expandBase directory base).after tree).2) := by
  have same : (base.under parameters).document.contains extendsKey =
      base.document.contains extendsKey :=
    Document.contains_merge passive base.document
  cases extending : base.document.contains extendsKey with
  | false =>
      rw [extending] at same
      rw [after_expandBase_of_not_contains extending, after_expandBase_of_not_contains same]
      rfl
  | true =>
      rw [extending] at same
      rw [after_expandBase_of_contains extending, after_expandBase_of_contains same]
      have expanded := after_expand_merge passive loader directory base.document base.origin tree
      simp only [Base.under, expanded]
      rcases (loader.expand directory base.document base.origin).after tree with
        ⟨error | expansion, later⟩ <;> rfl

/-- Passive parameters come on top of what is resolved without them, in success and in failure, and
the files are the same afterwards. -/
theorem after_resolve_merge {more : Document} (passive : Passive more) (loader : Loader)
    (environment : Environment) (workspace : Option String) (parameters : Document)
    (tree : FileTree) :
    (loader.resolve environment workspace (parameters.merge more)).after tree =
      (((loader.resolve environment workspace parameters).after tree).1.map (RunConfig.under more),
        ((loader.resolve environment workspace parameters).after tree).2) := by
  have sameName : namedDocument (upperLayers environment (parameters.merge more)) =
      namedDocument (upperLayers environment parameters) := by
    rw [upperLayers_merge, namedDocument_merge passive]
  by_cases bare :
      workspace = none ∧ namedDocument (upperLayers environment parameters) = none
  · obtain ⟨rfl, unnamed⟩ := bare
    rw [after_resolve_of_none unnamed, after_resolve_of_none (sameName.trans unnamed),
      upperLayers_merge]
    rfl
  · have based : ¬ (workspace = none ∧
        namedDocument (upperLayers environment (parameters.merge more)) = none) := by
      rwa [sameName]
    rw [after_resolve_of_some bare, after_resolve_of_some based, sameName, upperLayers_merge,
      after_loadBase_merge]
    rcases (loader.loadBase (workspace.getD defaultWorkspace)
      (namedDocument (upperLayers environment parameters))
      (upperLayers environment parameters)).after tree with ⟨error | base, later⟩
    · rfl
    · exact after_expandBase_under passive loader _ base later

theorem get?_of_expandBase {directory : String} {base : Base} {run : RunConfig} {tree : FileTree}
    (expanded : ((loader.expandBase directory base).after tree).1 = .ok run) {key : String}
    {value : Value} (there : base.document.get? key = some value) :
    run.document.get? key = some value := by
  cases extending : base.document.contains extendsKey with
  | false =>
      rw [after_expandBase_of_not_contains extending] at expanded
      cases expanded
      exact there
  | true =>
      obtain ⟨visits, outcome, final, gathered⟩ :=
        loader.exists_gathers_of_document directory base.document base.origin tree
      rw [after_expandBase_of_contains extending, after_expand_of_gathers gathered] at expanded
      cases outcome with
      | error error => cases expanded
      | ok ancestry =>
          cases expanded
          simp only [Ancestry.expansion, Mapping.get?_merge, there, Option.some_or]

/-- A parameter is in the resolved document as it is given, whatever stands under its key in the
environment, in the primary document and in everything that these extend. -/
theorem get?_of_resolve_of_parameter {environment : Environment} {workspace : Option String}
    {run : RunConfig} {tree : FileTree}
    (resolved : ((loader.resolve environment workspace parameters).after tree).1 = .ok run)
    {key : String} {value : Value} (given : parameters.get? key = some value) :
    run.document.get? key = some value := by
  have upper : (upperLayers environment parameters).get? key = some value := by
    rw [get?_upperLayers, given, Option.some_or]
  by_cases bare :
      workspace = none ∧ namedDocument (upperLayers environment parameters) = none
  · obtain ⟨rfl, unnamed⟩ := bare
    rw [after_resolve_of_none unnamed] at resolved
    cases resolved
    exact upper
  · rw [after_resolve_of_some bare] at resolved
    rcases loaded : (loader.loadBase (workspace.getD defaultWorkspace)
      (namedDocument (upperLayers environment parameters))
      (upperLayers environment parameters)).after tree with ⟨error | base, later⟩
    · rw [loaded] at resolved
      cases resolved
    · rw [loaded] at resolved
      obtain ⟨primary, -, layered⟩ := primary_of_loadBase loaded
      refine get?_of_expandBase resolved ?_
      rw [layered, Mapping.get?_merge, upper, Option.some_or]

end Loader

/-! ## Steps of initialisation -/

namespace Session

/-- Steps that initialise one request again and again, each with a workspace of its own. -/
def reinitialisations (id : RequestId) (more : List (Option String × Document)) : List Step :=
  more.map fun pair => .init id pair.1 pair.2

/-- The parameters of all steps over each other, the last ones on top. -/
def laid : List (Option String × Document) → Document
  | [] => ∅
  | pair :: more => pair.2.merge (laid more)

theorem passive_laid {more : List (Option String × Document)}
    (passive : ∀ pair ∈ more, Passive pair.2) : Passive (laid more) := by
  induction more with
  | nil => exact .empty
  | cons pair more ih =>
      obtain ⟨here, further⟩ := List.forall_mem_cons.mp passive
      exact here.merge (ih further)

theorem init_of_run? {session : Session} {id : RequestId} {run : RunConfig}
    (there : session.store.run? id = some run) (workspace : Option String)
    (parameters : Document) :
    session.init id workspace parameters =
      (.ok .done, { session with store := session.store.put id (run.under parameters) }) := by
  have filled : session.initSlot workspace parameters (session.store.run? id) =
      ((.ok .done, session.tree), some (run.under parameters)) := by
    rw [there]
    rfl
  rw [init, Store.withSlot_of_some filled]

theorem init_of_resolve {session : Session} {id : RequestId} {workspace : Option String}
    {parameters : Document} {run : RunConfig} {tree : FileTree}
    (fresh : session.store.run? id = none)
    (resolved : (session.loader.resolve session.environment workspace parameters).after
      session.tree = (.ok run, tree)) :
    session.init id workspace parameters =
      (.ok .done, { session with store := session.store.put id run, tree }) := by
  have filled : session.initSlot workspace parameters (session.store.run? id) =
      ((.ok .done, tree), some run) := by
    rw [fresh, initSlot, resolved]
  rw [init, Store.withSlot_of_some filled]

/-- An initialisation that fails takes the slot of its request away. -/
theorem init_of_resolve_error {session : Session} {id : RequestId} {workspace : Option String}
    {parameters : Document} {error : ConfigError} {tree : FileTree}
    (fresh : session.store.run? id = none)
    (refused : (session.loader.resolve session.environment workspace parameters).after
      session.tree = (.error error, tree)) :
    session.init id workspace parameters =
      (.error error, { session with store := session.store.delete id, tree }) := by
  have left : session.initSlot workspace parameters (session.store.run? id) =
      ((.error error, tree), none) := by
    rw [fresh, initSlot, refused]
  rw [init, Store.withSlot_of_none left]

/-- An initialisation that succeeds has resolved the configuration that it stores. -/
theorem resolve_of_init {session first : Session} {id : RequestId} {workspace : Option String}
    {parameters : Document} (fresh : session.store.run? id = none)
    (initialised : session.init id workspace parameters = (.ok .done, first)) :
    ∃ run tree,
      (session.loader.resolve session.environment workspace parameters).after session.tree =
        (.ok run, tree) ∧
      first = { session with store := session.store.put id run, tree } := by
  rcases resolved : (session.loader.resolve session.environment workspace parameters).after
    session.tree with ⟨error | run, tree⟩
  · rw [init_of_resolve_error fresh resolved] at initialised
    cases initialised
  · rw [init_of_resolve fresh resolved] at initialised
    cases initialised
    exact ⟨run, tree, rfl, rfl⟩

theorem run_reinitialisations {session : Session} {id : RequestId} {run : RunConfig}
    (there : session.store.run? id = some run) (more : List (Option String × Document)) :
    session.run (reinitialisations id more) =
      (List.replicate more.length (.ok .done),
        { session with store := session.store.put id (run.under (laid more)) }) := by
  -- By induction on the steps, for any session: each one lays its parameters over what is stored.
  induction more generalizing session run with
  | nil =>
      rw [laid, RunConfig.under_empty, Store.put_of_run? there]
      rfl
  | cons pair more ih =>
      have first : session.step (.init id pair.1 pair.2) =
          (.ok .done, { session with store := session.store.put id (run.under pair.2) }) :=
        init_of_run? there pair.1 pair.2
      have there : (session.store.put id (run.under pair.2)).run? id = some (run.under pair.2) :=
        Store.run?_put ..
      have onward := @ih { session with store := session.store.put id (run.under pair.2) } _ there
      rw [Store.put_put, RunConfig.under_under] at onward
      rw [reinitialisations, List.map_cons, Session.run, first]
      rw [reinitialisations] at onward
      simp only [onward]
      rfl

/-- A request that is initialised in steps comes to the same session as one that is given all
parameters at once, if only the first step names a document or ancestors.  The later steps succeed
whatever their workspaces are; they need no file, no network and no environment, and change none. -/
theorem run_reinitialisations_eq_init {session first : Session} {id : RequestId}
    {workspace : Option String} {parameters : Document} {more : List (Option String × Document)}
    (fresh : session.store.run? id = none)
    (initialised : session.init id workspace parameters = (.ok .done, first))
    (passive : ∀ pair ∈ more, Passive pair.2) :
    ∃ run last,
      first.store.run? id = some run ∧
      last.store.run? id = some (run.under (laid more)) ∧
      session.init id workspace (parameters.merge (laid more)) = (.ok .done, last) ∧
      first.run (reinitialisations id more) = (List.replicate more.length (.ok .done), last) ∧
      (∀ tree environment loader,
        ({ first with tree, environment, loader } : Session).run (reinitialisations id more) =
          (List.replicate more.length (.ok .done), { last with tree, environment, loader })) ∧
      ∀ other, first.init id other ∅ = (.ok .done, first) := by
  obtain ⟨run, tree, resolved, rfl⟩ := resolve_of_init fresh initialised
  have there : (session.store.put id run).run? id = some run := Store.run?_put ..
  have batch := Loader.after_resolve_merge (passive_laid passive) session.loader
    session.environment workspace parameters session.tree
  rw [resolved] at batch
  refine ⟨run, { session with store := session.store.put id (run.under (laid more)), tree },
    there, Store.run?_put .., init_of_resolve fresh batch, ?_, ?_, ?_⟩
  · rw [run_reinitialisations there, Store.put_put]
  · intro files environment loader
    rw [run_reinitialisations there, Store.put_put]
  · intro other
    rw [init_of_run? there, RunConfig.under_empty, Store.put_of_run? there]

def workspaceSession : Session where
  store := .empty
  environment := Loader.workspaceEnvironment
  loader := Loader.offline
  tree := Loader.workspaceFiles

/-- Parameters that come later; the last ones win. -/
def laterParameters : List (Option String × Document) :=
  [(none, Mapping.ofList [("A", .text "later"), ("E", .integer 1)]),
    (some "/elsewhere", Mapping.ofList [("A", .text "last"), ("D", .null)])]

theorem run_reinitialisations_eq_init_workspace :
    workspaceSession.store.run? ⟨"lint"⟩ = none ∧
      (∀ pair ∈ laterParameters, Passive pair.2) ∧
      ∃ first last,
        workspaceSession.init ⟨"lint"⟩ (some "/w") Loader.workspaceParameters =
          (.ok .done, first) ∧
        last.store.run? ⟨"lint"⟩ = some (Loader.workspaceRun.under (laid laterParameters)) ∧
        workspaceSession.init ⟨"lint"⟩ (some "/w")
          (Loader.workspaceParameters.merge (laid laterParameters)) = (.ok .done, last) ∧
        first.run (reinitialisations ⟨"lint"⟩ laterParameters) =
          (List.replicate laterParameters.length (.ok .done), last) := by
  have fresh : workspaceSession.store.run? ⟨"lint"⟩ = none := by
    decide +kernel
  have answered :
      (workspaceSession.init ⟨"lint"⟩ (some "/w") Loader.workspaceParameters).1 = .ok .done := by
    decide +kernel
  have resolved : (workspaceSession.init ⟨"lint"⟩ (some "/w")
      Loader.workspaceParameters).2.store.run? ⟨"lint"⟩ = some Loader.workspaceRun := by
    decide +kernel
  have passive : ∀ pair ∈ laterParameters, Passive pair.2 := by
    intro pair member
    rcases List.mem_pair.mp member with rfl | rfl
    · exact ⟨by decide +kernel, by decide +kernel⟩
    · exact ⟨by decide +kernel, by decide +kernel⟩
  rcases initialised : workspaceSession.init ⟨"lint"⟩ (some "/w") Loader.workspaceParameters with
    ⟨answer, first⟩
  rw [initialised] at answered resolved
  obtain rfl := answered
  obtain ⟨run, last, there, kept, batch, steps, -, -⟩ :=
    run_reinitialisations_eq_init fresh initialised passive
  rw [there] at resolved
  obtain rfl := Option.some.inj resolved
  exact ⟨fresh, passive, first, last, rfl, kept, batch, steps⟩

end Session

end LayeredConfig
