import LayeredConfig.Proofs.Extends.Steadiness

/-!
# What an expansion comes to

An expansion lays every ancestor twice: once before everything that the ancestor extends, and once
after it.  The law knows nothing of this.  The flattened ancestors of a document lie over each
other in the order in which it names them, each over its own flattened ancestors, and the document
lies over all of them.
-/

set_option autoImplicit false

namespace LayeredConfig

/-- What lies under a document that declares some names: the documents under these names, each over
what lies under it. -/
inductive Flattens (source : Source) (base : String) :
    Except ConfigError (List String) → Document → Prop where
  | empty : Flattens source base (.ok []) ∅
  | ancestor {name : String} {names : List String} {parent above others : Document}
      (found : source (locate base name) = .ok (some parent))
      (inner : Flattens source base parent.ancestors above)
      (rest : Flattens source base (.ok names) others) :
      Flattens source base (.ok (name :: names)) ((above.merge parent).merge others)

namespace Flattens

variable {source : Source} {base : String} {declared : Except ConfigError (List String)}

theorem unique {first second : Document} (one : Flattens source base declared first)
    (two : Flattens source base declared second) : first = second := by
  induction one generalizing second with
  | empty =>
      cases two
      rfl
  | ancestor found inner rest ihInner ihRest =>
      cases two with
      | ancestor foundTwo innerTwo restTwo =>
          rw [found] at foundTwo
          cases foundTwo
          rw [ihInner innerTwo, ihRest restTwo]

end Flattens

namespace Loader

variable {loader : Loader} {source : Source} {base : String}

theorem flattens_of_gathers {chain : List String} {declared : Except ConfigError (List String)}
    {tree final : FileTree} {visits : List Visit} {outcome : Except ConfigError Ancestry}
    (gathered : loader.Gathers base chain declared tree visits outcome final)
    (finds : loader.Finds source visits) {ancestry : Ancestry} (success : outcome = .ok ancestry) :
    Flattens source base declared ancestry.flat := by
  induction gathered generalizing ancestry with
  | malformed chain error tree => cases success
  | empty chain tree =>
      cases success
      exact .empty
  | cyclic known => cases success
  | refused fresh load => cases success
  | missing fresh load => cases success
  | above fresh load inner ih => cases success
  | @ancestor chain name names tree later middle final parent visits others above outcome
      fresh load inner rest ihInner ihRest =>
      cases outcome with
      | error error => cases success
      | ok following =>
          cases success
          obtain ⟨here, further⟩ := finds_cons.mp finds
          obtain ⟨findsInner, findsRest⟩ := finds_append.mp further
          have found : source (locate base name) = .ok (some parent.document) := by
            rw [← here, documentAt_of_load load]
            rfl
          exact .ancestor found (ihInner findsInner rfl) (ihRest findsRest rfl)

/-- An expansion over `below` lays the document over its flattened ancestors, and both over
`below`. -/
theorem flattens_of_expandWithin {depth : Nat} {document below : Document}
    {chain left : List String} {tree : FileTree} {expansion : Expansion}
    (steady : loader.Steady base chain document.ancestors tree source)
    (run : ((loader.expandWithin base depth document below).after chain tree).1 =
      .ok (some expansion, left)) :
    ∃ under, Flattens source base document.ancestors under ∧
      expansion.document = below.merge (under.merge document) := by
  rcases loader.reports_expandWithin base depth document below chain tree with
    exhausted | ⟨visits, outcome, gathered, reports⟩
  · rw [exhausted] at run
    cases run
  · rw [reports] at run
    cases outcome with
    | error error => cases run
    | ok ancestry =>
        cases run
        exact ⟨ancestry.flat,
          flattens_of_gathers gathered (steady _ _ _ gathered) rfl, rfl⟩

theorem flattens_of_expand {document : Document} {origin : Option Location} {tree : FileTree}
    {expansion : Expansion}
    (steady : loader.Steady base (startingChain tree origin) document.ancestors tree source)
    (run : ((loader.expand base document origin).after tree).1 = .ok expansion) :
    ∃ under, Flattens source base document.ancestors under ∧
      expansion.document = under.merge document := by
  rw [after_expand] at run
  split at run
  · rename_i found left later within
    cases run
    obtain ⟨under, flattens, same⟩ :=
      flattens_of_expandWithin steady (congrArg Prod.fst within)
    exact ⟨under, flattens, by rw [same, Mapping.empty_merge]⟩
  · cases run
  · cases run

/-- While loading is steady, an expansion is the document over its flattened ancestors, and what an
expander lays over `below` is the same over `below`: nothing that was laid before comes up. -/
theorem expansion_is_flat (loader : Loader) (base : String) (source : Source) :
    (∀ document origin tree expansion,
      loader.Steady base (startingChain tree origin) document.ancestors tree source →
      ((loader.expand base document origin).after tree).1 = .ok expansion →
      ∃ under,
        (∀ other, Flattens source base document.ancestors other ↔ other = under) ∧
        expansion.document = under.merge document) ∧
    ∀ depth document below chain tree expansion left,
      loader.Steady base chain document.ancestors tree source →
      ((loader.expandWithin base depth document below).after chain tree).1 =
        .ok (some expansion, left) →
      ∃ under,
        (∀ other, Flattens source base document.ancestors other ↔ other = under) ∧
        expansion.document = below.merge (under.merge document) := by
  have only : ∀ (document under : Document), Flattens source base document.ancestors under →
      ∀ other, Flattens source base document.ancestors other ↔ other = under := by
    intro document under flattens other
    constructor
    · intro another
      exact another.unique flattens
    · rintro rfl
      exact flattens
  constructor
  · intro document origin tree expansion steady run
    obtain ⟨under, flattens, same⟩ := flattens_of_expand steady run
    exact ⟨under, only document under flattens, same⟩
  · intro depth document below chain tree expansion left steady run
    obtain ⟨under, flattens, same⟩ := flattens_of_expandWithin steady run
    exact ⟨under, only document under flattens, same⟩

theorem expansion_is_flat_of_diamond :
    offline.Steady "/w" [] diamondDocument.ancestors diamondFiles
        (offline.documentAt diamondFiles) ∧
      ((offline.expand "/w" diamondDocument none).after diamondFiles).1 = .ok diamondExpansion ∧
      ∃ under,
        (∀ other, Flattens (offline.documentAt diamondFiles) "/w" diamondDocument.ancestors other ↔
          other = under) ∧
        diamondExpansion.document = under.merge diamondDocument := by
  have steady : offline.Steady "/w" [] diamondDocument.ancestors diamondFiles
      (offline.documentAt diamondFiles) :=
    steady_of_unreachable rfl
  have run := expand_diamond
  exact ⟨steady, run, (expansion_is_flat ..).1 diamondDocument none diamondFiles _ steady run⟩

end Loader

end LayeredConfig
