import LayeredConfig.Proofs.Extends.Termination
import LayeredConfig.Resolution

/-!
# What loading, expansion and resolution fail with

Loading a document fails for a reason that lies in that document or on the way to it.  Only an
expansion finds a cycle.  Neither of them, nor the resolution that rests on them, fails because of a
request or because of a list that cannot be read.
-/

set_option autoImplicit false

namespace LayeredConfig

/-- An error in the expansion of a document or in what it loads. -/
def ConfigError.OfExpansion : ConfigError → Prop
  | .notInitialized _ | .malformedList _ _ => False
  | .fetch _ _ | .parse _ _ | .notFound _ | .cyclicExtends _ | .noAnswer | .file _
  | .cutShort => True

/-- An error in a document or on the way to it. -/
def ConfigError.OfLoading : ConfigError → Prop
  | .cyclicExtends _ | .notInitialized _ | .malformedList _ _ => False
  | .fetch _ _ | .parse _ _ | .notFound _ | .noAnswer | .file _ | .cutShort => True

theorem ConfigError.OfLoading.ofExpansion {error : ConfigError} (loading : error.OfLoading) :
    error.OfExpansion := by
  cases error <;> first | exact loading | trivial

/-- A result that is an error only of a given kind. -/
def FailsOnly {α : Type} (kind : ConfigError → Prop) (result : Except ConfigError α) : Prop :=
  ∀ error, result = .error error → kind error

section FailsOnly

variable {α β : Type} {kind : ConfigError → Prop} {result : Except ConfigError α}

theorem FailsOnly.ok (kind : ConfigError → Prop) (a : α) : FailsOnly kind (.ok a) := nofun

theorem FailsOnly.error {error : ConfigError} (of : kind error) :
    FailsOnly kind (.error error : Except ConfigError α) := by
  intro same failed
  cases failed
  exact of

theorem FailsOnly.map (fails : FailsOnly kind result) (f : α → β) :
    FailsOnly kind (result.map f) := by
  cases result with
  | ok a => exact nofun
  | error error => exact .error (fails error rfl)

theorem FailsOnly.ofExpansion (fails : FailsOnly ConfigError.OfLoading result) :
    FailsOnly ConfigError.OfExpansion result :=
  fun error failed => (fails error failed).ofExpansion

end FailsOnly

/-! ## Documents -/

theorem failsOnly_parseDocument (place : String) (text : List Char) :
    FailsOnly ConfigError.OfLoading (parseDocument place text) := by
  unfold parseDocument
  split
  · exact .ok _ _
  · split
    · exact .error trivial
    · rename_i node _
      cases node.toValue <;> first | exact .ok _ _ | exact .error trivial

theorem failsOnly_ancestorsInList (items : List Value) :
    FailsOnly ConfigError.OfLoading (ancestorsInList items) := by
  induction items with
  | nil => exact .ok _ _
  | cons item items ih =>
      rw [ancestorsInList]
      cases item <;> first | exact ih.map _ | exact .error trivial

theorem Document.failsOnly_ancestors (document : Document) :
    FailsOnly ConfigError.OfLoading document.ancestors := by
  unfold Document.ancestors
  split
  · exact .ok _ _
  · exact .ok _ _
  · exact .ok _ _
  · exact failsOnly_ancestorsInList _
  · exact .error trivial

namespace Loader

theorem failsOnly_readFile (path : String) (bytes : List UInt8) :
    FailsOnly ConfigError.OfLoading (readFile path bytes) := by
  unfold readFile
  split
  · exact .error trivial
  · exact failsOnly_parseDocument _ _

theorem failsOnly_readRemote (url : String) (bytes : List UInt8) :
    FailsOnly ConfigError.OfLoading (readRemote url bytes) := by
  unfold readRemote
  split
  · exact .error trivial
  · exact failsOnly_parseDocument _ _

theorem failsOnly_address (text : String) : FailsOnly ConfigError.OfLoading (address text) := by
  unfold address
  split
  · exact .ok _ _
  · exact .error trivial

theorem failsOnly_fetch (loader : Loader) (text : String) :
    FailsOnly ConfigError.OfLoading (loader.fetch text) := by
  unfold fetch
  split
  · rename_i error invalid
    exact .error (failsOnly_address text error invalid)
  · split
    · exact .ok _ _
    · rename_i fault _
      cases fault <;> exact .error trivial

theorem failsOnly_loadRemote (loader : Loader) (url : String) (tree : FileTree) :
    FailsOnly ConfigError.OfLoading ((loader.loadRemote url).after tree).1 := by
  rw [after_loadRemote]
  cases copied : loader.copyPath url with
  | error error => exact .error ((failsOnly_address url).map _ error copied)
  | ok path =>
      cases fetched : loader.fetch url with
      | error error => exact .error (failsOnly_fetch loader url error fetched)
      | ok bytes =>
          simp only
          cases tree.write path bytes with
          | error fault => exact .error trivial
          | ok later => exact (failsOnly_readRemote _ _).map _

theorem failsOnly_load (loader : Loader) (location : Location) (tree : FileTree) :
    FailsOnly ConfigError.OfLoading ((loader.load location).after tree).1 := by
  cases location with
  | remote url =>
      rw [after_load_remote]
      exact (failsOnly_loadRemote loader url tree).map _
  | file path =>
      rw [after_load_file, after_loadFile]
      simp only
      split
      · split
        · exact .error trivial
        · exact (failsOnly_readFile _ _).map _
      · exact .ok _ _

/-! ## Expansions -/

variable {loader : Loader} {base : String}

theorem failsOnly_of_gathers {chain : List String} {declared : Except ConfigError (List String)}
    {tree final : FileTree} {visits : List Visit} {outcome : Except ConfigError Ancestry}
    (gathered : loader.Gathers base chain declared tree visits outcome final)
    (proper : FailsOnly ConfigError.OfExpansion declared) :
    FailsOnly ConfigError.OfExpansion outcome := by
  have loads : ∀ {location tree error later},
      (loader.load location).after tree = (.error error, later) →
      error.OfExpansion := by
    intro location tree error later load
    exact (failsOnly_load loader location tree error (congrArg Prod.fst load)).ofExpansion
  induction gathered with
  | malformed chain error tree => exact .error (proper error rfl)
  | empty chain tree => exact .ok _ _
  | cyclic known => exact .error trivial
  | refused fresh load => exact .error (loads load)
  | missing fresh load => exact .error trivial
  | above fresh load inner ih =>
      exact ih (Document.failsOnly_ancestors _).ofExpansion
  | ancestor fresh load inner rest ihInner ihRest => exact (ihRest (.ok _ _)).map _

theorem failsOnly_expand (loader : Loader) (base : String) (document : Document)
    (origin : Option Location) (tree : FileTree) :
    FailsOnly ConfigError.OfExpansion ((loader.expand base document origin).after tree).1 := by
  obtain ⟨visits, outcome, final, gathered⟩ :=
    loader.exists_gathers_of_document base document origin tree
  rw [after_expand_of_gathers gathered]
  exact (failsOnly_of_gathers gathered document.failsOnly_ancestors.ofExpansion).map _

/-! ## Resolutions -/

theorem failsOnly_loadBase (loader : Loader) (directory : String) (named : Option String)
    (upper : Document) (tree : FileTree) :
    FailsOnly ConfigError.OfLoading ((loader.loadBase directory named upper).after tree).1 := by
  rw [after_loadBase]
  rcases load : (loader.load (primaryLocation tree directory named)).after tree with
    ⟨error | _ | primary, later⟩
  · exact .error (failsOnly_load loader _ tree error (congrArg Prod.fst load))
  · cases named with
    | some name => exact .error trivial
    | none => exact .ok _ _
  · exact .ok _ _

theorem failsOnly_expandBase (loader : Loader) (directory : String) (base : Base)
    (tree : FileTree) :
    FailsOnly ConfigError.OfExpansion ((loader.expandBase directory base).after tree).1 := by
  cases extending : base.document.contains extendsKey with
  | false =>
      rw [after_expandBase_of_not_contains extending]
      exact .ok _ _
  | true =>
      rw [after_expandBase_of_contains extending]
      rcases expanded : (loader.expand directory base.document base.origin).after tree with
        ⟨error | expansion, later⟩
      · exact .error (failsOnly_expand loader _ _ _ tree error (congrArg Prod.fst expanded))
      · exact .ok _ _

theorem failsOnly_resolve (loader : Loader) (environment : Environment)
    (workspace : Option String) (parameters : Document) (tree : FileTree) :
    FailsOnly ConfigError.OfExpansion
      ((loader.resolve environment workspace parameters).after tree).1 := by
  by_cases bare :
      workspace = none ∧ namedDocument (upperLayers environment parameters) = none
  · obtain ⟨rfl, unnamed⟩ := bare
    rw [after_resolve_of_none unnamed]
    exact .ok _ _
  · rw [after_resolve_of_some bare]
    rcases loaded : (loader.loadBase (workspace.getD defaultWorkspace)
      (namedDocument (upperLayers environment parameters))
      (upperLayers environment parameters)).after tree with ⟨error | base, later⟩
    · have proper := failsOnly_loadBase loader _ _ _ tree error (congrArg Prod.fst loaded)
      exact .error proper.ofExpansion
    · exact failsOnly_expandBase loader _ base later

end Loader

end LayeredConfig
