import LayeredConfig.Proofs.Extends.Termination
import LayeredConfig.Proofs.Resolution.Layers

/-!
# Independence of keys

Only two keys steer a resolution: the one that names the primary document and the one that names
ancestors.  Whatever stands under another key, in the environment or in the parameters, decides
about that key alone.  The same documents are loaded in the same order, the same files are written,
and every other key comes to the same value.
-/

set_option autoImplicit false

namespace LayeredConfig

/-! ## Mappings that differ at one key -/

/-- Two mappings that answer alike at every key but one. -/
def Mapping.AgreeOff {α : Type} (key : String) (first second : Mapping α) : Prop :=
  ∀ other, other ≠ key → first.get? other = second.get? other

/-- A key that names neither a primary document nor ancestors. -/
structure Idle (key : String) : Prop where
  extendsNothing : key ≠ extendsKey
  namesNothing : key ≠ documentKey

section Documents

variable {key : String} {first second : Document}

theorem Mapping.AgreeOff.refl {α : Type} (key : String) (mapping : Mapping α) :
    mapping.AgreeOff key mapping :=
  fun _ _ => rfl

theorem Mapping.AgreeOff.merge {α : Type} {low otherLow high otherHigh : Mapping α}
    (below : low.AgreeOff key otherLow) (above : high.AgreeOff key otherHigh) :
    (low.merge high).AgreeOff key (otherLow.merge otherHigh) := by
  intro other different
  rw [Mapping.get?_merge, Mapping.get?_merge, below other different, above other different]

theorem Mapping.AgreeOff.ancestors (agree : first.AgreeOff key second)
    (other : key ≠ extendsKey) : first.ancestors = second.ancestors := by
  rw [Document.ancestors, Document.ancestors, agree extendsKey other.symm]

theorem Mapping.AgreeOff.contains_extendsKey (agree : first.AgreeOff key second)
    (other : key ≠ extendsKey) : first.contains extendsKey = second.contains extendsKey := by
  rw [Mapping.contains, Mapping.contains, agree extendsKey other.symm]

theorem Mapping.AgreeOff.namedDocument (agree : first.AgreeOff key second)
    (other : key ≠ documentKey) : namedDocument first = namedDocument second := by
  rw [LayeredConfig.namedDocument, LayeredConfig.namedDocument, agree documentKey other.symm]

theorem Mapping.AgreeOff.upperLayers {environment otherEnvironment : Environment}
    {parameters otherParameters : Document}
    (sameVariables : environment.AgreeOff key otherEnvironment)
    (sameParameters : parameters.AgreeOff key otherParameters) :
    (upperLayers environment parameters).AgreeOff key
      (upperLayers otherEnvironment otherParameters) := by
  intro other different
  rw [get?_upperLayers, get?_upperLayers, sameVariables other different,
    sameParameters other different]

end Documents

/-! ## Results that differ at one key -/

/-- Two results that are the same failure, or successes that are alike. -/
inductive AlikeResults {α : Type} (alike : α → α → Prop) :
    Except ConfigError α → Except ConfigError α → Prop where
  | failure (error : ConfigError) : AlikeResults alike (.error error) (.error error)
  | success {first second : α} (same : alike first second) :
      AlikeResults alike (.ok first) (.ok second)

theorem AlikeResults.map {α β : Type} {alike : α → α → Prop} {alikeLater : β → β → Prop}
    {first second : Except ConfigError α} (results : AlikeResults alike first second)
    (f g : α → β) (each : ∀ {a b}, alike a b → alikeLater (f a) (g b)) :
    AlikeResults alikeLater (first.map f) (second.map g) := by
  cases results with
  | failure error => exact .failure error
  | success same => exact .success (each same)

structure Expansion.AgreeOff (key : String) (first second : Expansion) : Prop where
  document : first.document.AgreeOff key second.document
  ancestors : first.ancestors = second.ancestors

structure Base.AgreeOff (key : String) (first second : Base) : Prop where
  document : first.document.AgreeOff key second.document
  origin : first.origin = second.origin
  sources : first.sources = second.sources

structure RunConfig.AgreeOff (key : String) (first second : RunConfig) : Prop where
  document : first.document.AgreeOff key second.document
  sources : first.sources = second.sources

namespace Loader

variable {key : String}

/-- What is gathered for a document depends on the ancestors that it names alone. -/
theorem after_expand_of_ancestors_eq {first second : Document} (agree : first.AgreeOff key second)
    (same : first.ancestors = second.ancestors) (loader : Loader) (base : String)
    (origin : Option Location) (tree : FileTree) :
    ∃ one two final,
      (loader.expand base first origin).after tree = (one, final) ∧
      (loader.expand base second origin).after tree = (two, final) ∧
      AlikeResults (Expansion.AgreeOff key) one two := by
  obtain ⟨visits, outcome, final, gathered⟩ :=
    loader.exists_gathers_of_document base first origin tree
  have gatheredToo := gathered
  rw [same] at gatheredToo
  refine ⟨_, _, final, after_expand_of_gathers gathered, after_expand_of_gathers gatheredToo, ?_⟩
  cases outcome with
  | error error => exact .failure error
  | ok ancestry =>
      have laid : (ancestry.expansion ∅ first).AgreeOff key (ancestry.expansion ∅ second) :=
        ⟨(Mapping.AgreeOff.refl key ∅).merge
            ((Mapping.AgreeOff.refl key ancestry.flat).merge agree), rfl⟩
      exact .success laid

theorem after_expand_of_agreeOff (other : key ≠ extendsKey) {first second : Document}
    (agree : first.AgreeOff key second) (loader : Loader) (base : String)
    (origin : Option Location) (tree : FileTree) :
    ∃ one two final,
      (loader.expand base first origin).after tree = (one, final) ∧
      (loader.expand base second origin).after tree = (two, final) ∧
      AlikeResults (Expansion.AgreeOff key) one two :=
  after_expand_of_ancestors_eq agree (agree.ancestors other) loader base origin tree

theorem after_loadBase_of_agreeOff {upper otherUpper : Document}
    (agree : upper.AgreeOff key otherUpper) (loader : Loader) (directory : String)
    (named : Option String) (tree : FileTree) :
    ∃ one two later,
      (loader.loadBase directory named upper).after tree = (one, later) ∧
      (loader.loadBase directory named otherUpper).after tree = (two, later) ∧
      AlikeResults (Base.AgreeOff key) one two := by
  rw [after_loadBase, after_loadBase]
  rcases (loader.load (primaryLocation tree directory named)).after tree with
    ⟨error | _ | primary, later⟩
  · exact ⟨_, _, later, rfl, rfl, .failure error⟩
  · cases named with
    | some name => exact ⟨_, _, later, rfl, rfl, .failure _⟩
    | none => exact ⟨_, _, later, rfl, rfl, .success ⟨agree, rfl, rfl⟩⟩
  · have layered : (primary.document.merge upper).AgreeOff key
        (primary.document.merge otherUpper) :=
      (Mapping.AgreeOff.refl key primary.document).merge agree
    exact ⟨_, _, later, rfl, rfl, .success ⟨layered, rfl, rfl⟩⟩

theorem after_expandBase_of_agreeOff (other : key ≠ extendsKey) {first second : Base}
    (agree : first.AgreeOff key second) (loader : Loader) (directory : String)
    (tree : FileTree) :
    ∃ one two final,
      (loader.expandBase directory first).after tree = (one, final) ∧
      (loader.expandBase directory second).after tree = (two, final) ∧
      AlikeResults (RunConfig.AgreeOff key) one two := by
  have same := agree.document.contains_extendsKey other
  cases extending : first.document.contains extendsKey with
  | false =>
      rw [extending] at same
      refine ⟨_, _, tree, after_expandBase_of_not_contains extending ..,
        after_expandBase_of_not_contains same.symm .., ?_⟩
      exact .success ⟨agree.document, agree.sources⟩
  | true =>
      rw [extending] at same
      rw [after_expandBase_of_contains extending, after_expandBase_of_contains same.symm,
        ← agree.origin]
      obtain ⟨one, two, final, expanded, expandedToo, alike⟩ :=
        after_expand_of_agreeOff other agree.document loader directory first.origin tree
      rw [expanded, expandedToo]
      cases alike with
      | failure error => exact ⟨_, _, final, rfl, rfl, .failure error⟩
      | success laid =>
          refine ⟨_, _, final, rfl, rfl, .success ⟨laid.document, ?_⟩⟩
          simp only [Expansion.lines, laid.ancestors, agree.sources]

theorem after_resolve_of_agreeOff (idle : Idle key) {environment otherEnvironment : Environment}
    {parameters otherParameters : Document}
    (sameVariables : environment.AgreeOff key otherEnvironment)
    (sameParameters : parameters.AgreeOff key otherParameters) (loader : Loader)
    (workspace : Option String) (tree : FileTree) :
    ∃ one two final,
      (loader.resolve environment workspace parameters).after tree = (one, final) ∧
      (loader.resolve otherEnvironment workspace otherParameters).after tree = (two, final) ∧
      AlikeResults (RunConfig.AgreeOff key) one two := by
  have upper := sameVariables.upperLayers sameParameters
  have sameName := upper.namedDocument idle.namesNothing
  by_cases bare :
      workspace = none ∧ namedDocument (upperLayers environment parameters) = none
  · obtain ⟨rfl, unnamed⟩ := bare
    refine ⟨_, _, tree, after_resolve_of_none unnamed ..,
      after_resolve_of_none (sameName.symm.trans unnamed) .., ?_⟩
    exact .success ⟨upper, rfl⟩
  · have based : ¬ (workspace = none ∧
        namedDocument (upperLayers otherEnvironment otherParameters) = none) := by
      rwa [← sameName]
    rw [after_resolve_of_some bare, after_resolve_of_some based, ← sameName]
    obtain ⟨one, two, later, loaded, loadedToo, alike⟩ :=
      after_loadBase_of_agreeOff upper loader (workspace.getD defaultWorkspace)
        (namedDocument (upperLayers environment parameters)) tree
    rw [loaded, loadedToo]
    cases alike with
    | failure error => exact ⟨_, _, later, rfl, rfl, .failure error⟩
    | success layered =>
        exact after_expandBase_of_agreeOff idle.extendsNothing layered loader _ later

/-- A key that steers nothing decides about itself alone.  Whether the environment and the
parameters have it, and what they have under it, changes neither the error of a resolution, nor its
sources, nor the value of another key, nor any file that is written. -/
theorem resolve_independent_of_key (idle : Idle key) {environment otherEnvironment : Environment}
    {parameters otherParameters : Document}
    (sameVariables : environment.AgreeOff key otherEnvironment)
    (sameParameters : parameters.AgreeOff key otherParameters) (loader : Loader)
    (workspace : Option String) (tree : FileTree) :
    ((loader.resolve environment workspace parameters).after tree).2 =
        ((loader.resolve otherEnvironment workspace otherParameters).after tree).2 ∧
      ((∃ error,
          ((loader.resolve environment workspace parameters).after tree).1 = .error error ∧
          ((loader.resolve otherEnvironment workspace otherParameters).after tree).1 =
            .error error) ∨
        ∃ run other,
          ((loader.resolve environment workspace parameters).after tree).1 = .ok run ∧
          ((loader.resolve otherEnvironment workspace otherParameters).after tree).1 = .ok other ∧
          run.sources = other.sources ∧
          ∀ unlike, unlike ≠ key → run.document.get? unlike = other.document.get? unlike) := by
  obtain ⟨one, two, final, resolved, resolvedToo, alike⟩ :=
    after_resolve_of_agreeOff idle sameVariables sameParameters loader workspace tree
  rw [resolved, resolvedToo]
  refine ⟨rfl, ?_⟩
  cases alike with
  | failure error => exact .inl ⟨error, rfl, rfl⟩
  | success same => exact .inr ⟨_, _, rfl, rfl, same.sources, same.document⟩

/-- The environment loses the key and the parameters have a list under it; nothing else changes. -/
theorem resolve_independent_of_key_workspace :
    Idle "A" ∧
      workspaceEnvironment.AgreeOff "A" (Mapping.ofList [("B", "environment")]) ∧
      workspaceParameters.AgreeOff "A"
        (Mapping.ofList [("A", .list [.null]), ("C", .text "parameter")]) ∧
      ∃ run : RunConfig,
        ((offline.resolve (Mapping.ofList [("B", "environment")]) (some "/w")
          (Mapping.ofList [("A", .list [.null]), ("C", .text "parameter")])).after
            workspaceFiles).1 = .ok run ∧
        run.sources = workspaceRun.sources ∧
        ∀ key, key ≠ "A" → run.document.get? key = workspaceRun.document.get? key := by
  have idle : Idle "A" := ⟨by decide, by decide⟩
  have sameVariables :
      workspaceEnvironment.AgreeOff "A" (Mapping.ofList [("B", "environment")]) := by
    intro other different
    have split : workspaceEnvironment =
        Mapping.insert (Mapping.ofList [("B", "environment")]) "A" "environment" := by
      decide +kernel
    rw [split, Mapping.get?_insert, if_neg different]
  have sameParameters : workspaceParameters.AgreeOff "A"
      (Mapping.ofList [("A", .list [.null]), ("C", .text "parameter")]) := by
    intro other different
    have split : workspaceParameters = Mapping.insert
        (Mapping.ofList [("A", .list [.null]), ("C", .text "parameter")]) "A"
        (.text "parameter") := by
      decide +kernel
    rw [split, Mapping.get?_insert, if_neg different]
  have resolved : ((offline.resolve workspaceEnvironment (some "/w") workspaceParameters).after
      workspaceFiles).1 = .ok workspaceRun := by
    decide +kernel
  have both := (resolve_independent_of_key idle sameVariables sameParameters offline (some "/w")
    workspaceFiles).2
  rw [resolved] at both
  rcases both with ⟨error, failed, -⟩ | ⟨run, other, same, found, sources, document⟩
  · cases failed
  · obtain rfl := Except.ok.inj same
    refine ⟨idle, sameVariables, sameParameters, other, found, sources.symm, ?_⟩
    intro key different
    exact (document key different).symm

end Loader

end LayeredConfig
