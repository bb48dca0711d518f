import LayeredConfig.Proofs.Extends.Gathering
import Mathlib.Data.Finset.Card

/-!
# The end of an expansion

Nothing but the chain stops an expansion.  An identity that is pushed belongs to a written name,
and all identities in a chain differ, so every push uses up a written name.  Files may change while
documents are loaded, but a location that held a document keeps its identity, so an identity that
was pushed is never met under another name later.
-/

set_option autoImplicit false

namespace LayeredConfig

theorem nodup_append_singleton {chain : List String} {identity : String} (nodup : chain.Nodup)
    (fresh : identity ∉ chain) : (chain ++ [identity]).Nodup := by
  rw [← List.concat_eq_append]
  exact (List.nodup_concat chain identity).mpr ⟨fresh, nodup⟩

/-- How a chain came about: names were pushed onto the chain at the start.  Each of them was
written somewhere, and its identity is settled. -/
structure Trail (base : String) (written start pushed chain : List String) (tree : FileTree) :
    Prop where
  chain_eq : chain = start ++ pushed.map fun name => (locate base name).identity tree
  nodup : chain.Nodup
  written : pushed ⊆ written
  settled : ∀ name ∈ pushed, (locate base name).Settled tree

namespace Trail

variable {loader : Loader} {base : String} {written start pushed chain : List String}
  {tree grown : FileTree} {name : String}

theorem start_of_nodup (nodup : start.Nodup) (tree : FileTree) :
    Trail base written start [] start tree := by
  refine ⟨?_, nodup, List.nil_subset written, ?_⟩
  · rw [List.map_nil, List.append_nil]
  · intro name member
    cases member

theorem later (trail : Trail base written start pushed chain tree)
    (growth : tree.Growth grown) : Trail base written start pushed chain grown := by
  refine ⟨?_, trail.nodup, trail.written, ?_⟩
  · have same : (pushed.map fun name => (locate base name).identity grown) =
        pushed.map fun name => (locate base name).identity tree :=
      List.map_congr_left fun name member => trail.settled name member grown growth
    rw [same]
    exact trail.chain_eq
  · intro name member
    exact (trail.settled name member).later growth

theorem written_append (trail : Trail base written start pushed chain tree)
    (known : name ∈ written) : pushed ++ [name] ⊆ written :=
  List.append_subset.mpr
    ⟨trail.written, List.cons_subset.mpr ⟨known, List.nil_subset written⟩⟩

theorem push (trail : Trail base written start pushed chain tree) (known : name ∈ written)
    (fresh : (locate base name).identity tree ∉ chain) {parent : LoadedDocument}
    (load : (loader.load (locate base name)).after tree = (.ok (some parent), grown)) :
    Trail base written start (pushed ++ [name])
      (chain ++ [(locate base name).identity tree]) grown := by
  have growth := Loader.growth_of_load load
  have settled := Loader.settled_of_load (congrArg Prod.fst load)
  have kept := trail.later growth
  refine ⟨?_, nodup_append_singleton trail.nodup fresh, trail.written_append known, ?_⟩
  · rw [List.map_append, ← List.append_assoc, ← kept.chain_eq, List.map_singleton,
      settled grown growth]
  · intro other member
    rcases List.mem_append.mp member with old | new
    · exact kept.settled other old
    · obtain rfl := List.mem_singleton.mp new
      exact settled.later growth

/-- A chain that misses a written name was not pushed for all of them. -/
theorem length_lt (trail : Trail base written start pushed chain tree) (known : name ∈ written)
    (fresh : (locate base name).identity tree ∉ chain) : pushed.length < written.length := by
  have distinct : ((pushed ++ [name]).map fun name => (locate base name).identity tree).Nodup := by
    have whole := nodup_append_singleton trail.nodup fresh
    rw [trail.chain_eq, List.append_assoc] at whole
    rw [List.map_append]
    exact whole.of_append_right
  have bound := ((distinct.of_map _).subperm (trail.written_append known)).length_le
  rw [List.length_append, List.length_singleton] at bound
  omega

end Trail

namespace Loader

variable {loader : Loader} {base : String} {written start pushed chain : List String}
  {declared : Except ConfigError (List String)} {tree final : FileTree}

/-! ## Gathering ends -/

/-- Whatever is declared, it can be gathered. -/
theorem exists_gathers (trail : Trail base written start pushed chain tree)
    (covers : loader.Covers written tree) (known : declared.toOption.getD [] ⊆ written) :
    ∃ visits outcome final,
      loader.Gathers base chain declared tree visits outcome final := by
  -- The names that are written and not pushed become fewer with every document.
  induction room : written.length - pushed.length using Nat.strong_induction_on
    generalizing pushed chain declared tree with
  | _ size deeper =>
    cases declared with
    | error error => exact ⟨_, _, _, .malformed chain error tree⟩
    | ok names =>
        induction names generalizing tree with
        | nil => exact ⟨_, _, _, .empty chain tree⟩
        | cons name names ih =>
            obtain ⟨knownName, knownNames⟩ := List.cons_subset.mp known
            by_cases fresh : (locate base name).identity tree ∈ chain
            · exact ⟨_, _, _, .cyclic fresh⟩
            · rcases load : (loader.load (locate base name)).after tree with
                ⟨error | _ | parent, later⟩
              · exact ⟨_, _, _, .refused fresh load⟩
              · exact ⟨_, _, _, .missing fresh load⟩
              · have less := trail.length_lt knownName fresh
                have coversLater := covers.after_load load
                have knownAbove := covers.names (congrArg Prod.fst load)
                have fewer : written.length - (pushed ++ [name]).length < size := by
                  rw [List.length_append, List.length_singleton]
                  omega
                obtain ⟨visits, outcome, middle, inner⟩ :=
                  deeper _ fewer (trail.push knownName fresh load) coversLater knownAbove rfl
                cases outcome with
                | error error => exact ⟨_, _, _, .above fresh load inner⟩
                | ok above =>
                    have growth := (growth_of_load load).trans (growth_of_gathers inner)
                    obtain ⟨others, outcome, final, rest⟩ :=
                      ih (trail.later growth) (covers_of_gathers inner coversLater) knownNames
                    exact ⟨_, _, _, .ancestor fresh load inner rest⟩

theorem trail_of_visit {visits : List Visit} {outcome : Except ConfigError Ancestry}
    (gathered : loader.Gathers base chain declared tree visits outcome final)
    (trail : Trail base written start pushed chain tree)
    (covers : loader.Covers written tree) (known : declared.toOption.getD [] ⊆ written) :
    ∀ visit ∈ visits, ∃ pushed, ∃ name ∈ written, visit.location = locate base name ∧
      visit.identity ∉ visit.chain ∧ Trail base written start pushed visit.chain visit.tree := by
  induction gathered generalizing pushed with
  | malformed chain error tree => simp
  | empty chain tree => simp
  | cyclic fresh => simp
  | refused fresh load =>
      intro visit member
      obtain rfl := List.mem_singleton.mp member
      exact ⟨pushed, _, (List.cons_subset.mp known).1, rfl, fresh, trail⟩
  | missing fresh load =>
      intro visit member
      obtain rfl := List.mem_singleton.mp member
      exact ⟨pushed, _, (List.cons_subset.mp known).1, rfl, fresh, trail⟩
  | above fresh load inner ih =>
      have knownName := (List.cons_subset.mp known).1
      intro visit member
      rcases List.mem_cons.mp member with rfl | deeper
      · exact ⟨pushed, _, knownName, rfl, fresh, trail⟩
      · exact ih (trail.push knownName fresh load) (covers.after_load load)
          (covers.names (congrArg Prod.fst load)) visit deeper
  | ancestor fresh load inner rest ihInner ihRest =>
      obtain ⟨knownName, knownNames⟩ := List.cons_subset.mp known
      have coversLater := covers.after_load load
      intro visit member
      rcases List.mem_cons.mp member with rfl | deeper
      · exact ⟨pushed, _, knownName, rfl, fresh, trail⟩
      · rcases List.mem_append.mp deeper with inAbove | beside
        · exact ihInner (trail.push knownName fresh load) coversLater
            (covers.names (congrArg Prod.fst load)) visit inAbove
        · have growth := (growth_of_load load).trans (growth_of_gathers inner)
          exact ihRest (trail.later growth) (covers_of_gathers inner coversLater) knownNames
            visit beside

theorem passed_of_visit {visits : List Visit} {outcome : Except ConfigError Ancestry}
    (gathered : loader.Gathers base chain declared tree visits outcome final)
    (trail : Trail base written start pushed chain tree)
    (covers : loader.Covers written tree) (known : declared.toOption.getD [] ⊆ written)
    {visit : Visit} (member : visit ∈ visits) :
    visit.passed.Nodup ∧
      visit.passed ⊆ start ++ written.map fun name => (locate base name).identity final := by
  obtain ⟨above, name, knownName, there, fresh, way⟩ :=
    trail_of_visit gathered trail covers known visit member
  refine ⟨nodup_append_singleton way.nodup fresh, ?_⟩
  have settled := way.later (growth_of_visit gathered member)
  intro identity inside
  rcases List.mem_append.mp inside with inChain | last
  · rw [settled.chain_eq] at inChain
    rcases List.mem_append.mp inChain with first | between
    · exact List.mem_append_left _ first
    · exact List.mem_append_right _ (List.map_subset _ settled.written between)
  · obtain rfl := List.mem_singleton.mp last
    rw [← identity_of_visit gathered member, there]
    exact List.mem_append_right _ (List.mem_map_of_mem knownName)

/-! ## The depth of an expansion -/

theorem nodup_startingChain (tree : FileTree) (origin : Option Location) :
    (startingChain tree origin).Nodup := by
  cases origin <;> simp [startingChain]

/-- The identities of the locations that a document or any document at hand names, and that of the
origin. -/
def writtenIdentities (loader : Loader) (base : String) (document : Document)
    (origin : Option Location) (tree final : FileTree) : Finset String :=
  (startingChain tree origin ++
    (loader.writtenNames tree document).map fun name => (locate base name).identity final).toFinset

theorem namesIn_subset_writtenNames (loader : Loader) (tree : FileTree) (document : Document) :
    namesIn document ⊆ loader.writtenNames tree document := by
  intro name named
  exact List.mem_flatMap.mpr ⟨document, List.mem_cons_self .., named⟩

theorem left_of_expandWithin {depth : Nat} {document below : Document}
    {result : Option Expansion} {left : List String}
    (run : ((loader.expandWithin base depth document below).after chain tree).1 =
      .ok (result, left)) : left = chain := by
  rcases loader.reports_expandWithin base depth document below chain tree with
    exhausted | ⟨visits, outcome, -, reports⟩
  · rw [exhausted] at run
    cases run
    rfl
  · rw [reports] at run
    cases outcome with
    | error error => cases run
    | ok ancestry =>
        cases run
        rfl

section Expand

variable {document : Document} {origin : Option Location} {visits : List Visit}
  {outcome : Except ConfigError Ancestry}

theorem trail_of_startingChain (base : String) (written : List String) (tree : FileTree)
    (origin : Option Location) :
    Trail base written (startingChain tree origin) [] (startingChain tree origin) tree :=
  .start_of_nodup (nodup_startingChain tree origin) tree

theorem exists_gathers_of_document (loader : Loader) (base : String) (document : Document)
    (origin : Option Location) (tree : FileTree) :
    ∃ visits outcome final, loader.Gathers base (startingChain tree origin) document.ancestors tree
      visits outcome final :=
  exists_gathers (trail_of_startingChain ..) (loader.covers_writtenNames tree document)
    (loader.namesIn_subset_writtenNames tree document)

theorem visit_of_expand
    (gathered : loader.Gathers base (startingChain tree origin) document.ancestors tree visits
      outcome final)
    {visit : Visit} (member : visit ∈ visits) :
    (∃ name ∈ loader.writtenNames tree document, visit.location = locate base name) ∧
      visit.passed.Nodup ∧
      visit.passed.toFinset ⊆ loader.writtenIdentities base document origin tree final := by
  have trail := trail_of_startingChain base (loader.writtenNames tree document) tree origin
  have covers := loader.covers_writtenNames tree document
  have known := loader.namesIn_subset_writtenNames tree document
  obtain ⟨pushed, name, written, there, -⟩ :=
    trail_of_visit gathered trail covers known visit member
  obtain ⟨nodup, within⟩ := passed_of_visit gathered trail covers known member
  refine ⟨⟨name, written, there⟩, nodup, ?_⟩
  intro identity inside
  exact List.mem_toFinset.mpr (within (List.mem_toFinset.mp inside))

theorem after_expandWithin_of_gathers
    (gathered : loader.Gathers base (startingChain tree origin) document.ancestors tree visits
      outcome final)
    {depth : Nat}
    (bound : (loader.writtenIdentities base document origin tree final).card ≤
      (startingChain tree origin).length + depth) :
    (loader.expandWithin base (depth + 1) document ∅).after (startingChain tree origin) tree =
      (reported ∅ document (startingChain tree origin) outcome, final) := by
  rw [after_expandWithin]
  refine afterDeclared_of_gathers gathered depth ?_ document ∅
  intro visit member
  obtain ⟨-, nodup, within⟩ := visit_of_expand gathered member
  have size := Finset.card_le_card within
  rw [List.toFinset_card_of_nodup nodup, Visit.passed, List.length_append,
    List.length_singleton] at size
  omega

/-- An expansion never uses up its depth. -/
theorem after_expand_of_gathers
    (gathered : loader.Gathers base (startingChain tree origin) document.ancestors tree visits
      outcome final) :
    (loader.expand base document origin).after tree =
      (outcome.map fun ancestry => ancestry.expansion ∅ document, final) := by
  have bound : (loader.writtenIdentities base document origin tree final).card ≤
      (startingChain tree origin).length + (loader.writtenNames tree document).length := by
    have size := List.toFinset_card_le (startingChain tree origin ++
      (loader.writtenNames tree document).map fun name => (locate base name).identity final)
    rw [List.length_append, List.length_map] at size
    exact size
  rw [after_expand, after_expandWithin_of_gathers gathered bound]
  cases outcome <;> rfl

end Expand

theorem growth_expand (loader : Loader) (base : String) (document : Document)
    (origin : Option Location) (tree : FileTree) :
    tree.Growth ((loader.expand base document origin).after tree).2 := by
  obtain ⟨visits, outcome, final, gathered⟩ :=
    loader.exists_gathers_of_document base document origin tree
  rw [after_expand_of_gathers gathered]
  exact growth_of_gathers gathered

/-- Every expansion ends.  It makes finitely many visits.  What a visit passes down holds no
identity twice, and nothing but identities of written names and of the origin, so an expansion that
is one deeper than their number comes to the same. -/
theorem expand_ends (loader : Loader) (base : String) (document : Document)
    (origin : Option Location) (tree : FileTree) :
    ∃ visits outcome final,
      loader.Gathers base (startingChain tree origin) document.ancestors tree visits outcome final ∧
      (loader.expand base document origin).after tree =
        (outcome.map fun ancestry => ancestry.expansion ∅ document, final) ∧
      (∀ visit ∈ visits,
        (∃ name ∈ loader.writtenNames tree document, visit.location = locate base name) ∧
        visit.passed.Nodup ∧
        visit.passed.toFinset ⊆ loader.writtenIdentities base document origin tree final) ∧
      (∀ further,
        (loader.expandWithin base
            ((loader.writtenIdentities base document origin tree final).card + 1 + further)
            document ∅).after (startingChain tree origin) tree =
          (reported ∅ document (startingChain tree origin) outcome, final)) ∧
      ∀ depth parent below chain files result left,
        ((loader.expandWithin base depth parent below).after chain files).1 = .ok (result, left) →
          left = chain := by
  obtain ⟨visits, outcome, final, gathered⟩ :=
    loader.exists_gathers_of_document base document origin tree
  refine ⟨visits, outcome, final, gathered, after_expand_of_gathers gathered, ?_, ?_, ?_⟩
  · intro visit member
    exact visit_of_expand gathered member
  · intro further
    rw [Nat.add_right_comm]
    apply after_expandWithin_of_gathers gathered
    omega
  · intro depth parent below chain files result left run
    exact left_of_expandWithin run

end Loader

end LayeredConfig
