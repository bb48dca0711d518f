import LayeredConfig.Proofs.Loading

/-!
# The gathering of ancestors

An expansion does two things at once: it loads the ancestors of a document, and it lays each of
them over what it has so far.  What is loaded, and in which order, does not depend on what lies
below, nor on anything in the first document but the names in it.  `Gathers` is the loading alone,
with every visit that it makes and without a limit on its depth.  An expansion that is deep enough
lays the ancestors gathered over what is below and the document over them.
-/

set_option autoImplicit false

namespace LayeredConfig

/-- The ancestors under a row of names: each with its document and with the ancestors under the
names in that document, and beside it the ancestors under the names that follow. -/
inductive Ancestry where
  | empty
  | ancestor (name : String) (document : Document) (above others : Ancestry)

namespace Ancestry

/-- All ancestors laid over each other, the first at the bottom.  Each lies over its own
ancestors. -/
def flat : Ancestry → Document
  | .empty => ∅
  | .ancestor _ document above others => (above.flat.merge document).merge others.flat

def names : Ancestry → List String
  | .empty => []
  | .ancestor name _ above others => name :: (above.names ++ others.names)

/-- A document with its ancestors, laid over `below`. -/
def expansion (ancestry : Ancestry) (below document : Document) : Expansion :=
  ⟨below.merge (ancestry.flat.merge document), ancestry.names⟩

end Ancestry

/-- The loading of one ancestor. -/
structure Visit where
  /-- The identities of the documents under expansion. -/
  chain : List String
  location : Location
  /-- The tree in which it is loaded. -/
  tree : FileTree

def Visit.identity (visit : Visit) : String :=
  visit.location.identity visit.tree

def Visit.passed (visit : Visit) : List String :=
  visit.chain ++ [visit.identity]

namespace Loader

/-- The loading of all ancestors under the names that a document declares: the chain, the names or
the error in their place, the tree, the visits, the outcome and the tree in the end. -/
inductive Gathers (loader : Loader) (base : String) :
    List String → Except ConfigError (List String) → FileTree → List Visit →
      Except ConfigError Ancestry → FileTree → Prop where
  | malformed (chain : List String) (error : ConfigError) (tree : FileTree) :
      Gathers loader base chain (.error error) tree [] (.error error) tree
  | empty (chain : List String) (tree : FileTree) :
      Gathers loader base chain (.ok []) tree [] (.ok .empty) tree
  | cyclic {chain : List String} {name : String} {names : List String} {tree : FileTree}
      (known : (locate base name).identity tree ∈ chain) :
      Gathers loader base chain (.ok (name :: names)) tree []
        (.error (.cyclicExtends (chain ++ [(locate base name).identity tree]))) tree
  | refused {chain : List String} {name : String} {names : List String} {tree later : FileTree}
      {error : ConfigError}
      (fresh : (locate base name).identity tree ∉ chain)
      (load : (loader.load (locate base name)).after tree = (.error error, later)) :
      Gathers loader base chain (.ok (name :: names)) tree [⟨chain, locate base name, tree⟩]
        (.error error) later
  | missing {chain : List String} {name : String} {names : List String} {tree later : FileTree}
      (fresh : (locate base name).identity tree ∉ chain)
      (load : (loader.load (locate base name)).after tree = (.ok none, later)) :
      Gathers loader base chain (.ok (name :: names)) tree [⟨chain, locate base name, tree⟩]
        (.error (.notFound (locate base name).display)) later
  | above {chain : List String} {name : String} {names : List String}
      {tree later final : FileTree} {parent : LoadedDocument} {visits : List Visit}
      {error : ConfigError}
      (fresh : (locate base name).identity tree ∉ chain)
      (load : (loader.load (locate base name)).after tree = (.ok (some parent), later))
      (inner : Gathers loader base (chain ++ [(locate base name).identity tree])
        parent.document.ancestors later visits (.error error) final) :
      Gathers loader base chain (.ok (name :: names)) tree
        (⟨chain, locate base name, tree⟩ :: visits) (.error error) final
  | ancestor {chain : List String} {name : String} {names : List String}
      {tree later middle final : FileTree} {parent : LoadedDocument}
      {visits others : List Visit} {ancestry : Ancestry} {outcome : Except ConfigError Ancestry}
      (fresh : (locate base name).identity tree ∉ chain)
      (load : (loader.load (locate base name)).after tree = (.ok (some parent), later))
      (inner : Gathers loader base (chain ++ [(locate base name).identity tree])
        parent.document.ancestors later visits (.ok ancestry) middle)
      (rest : Gathers loader base chain (.ok names) middle others outcome final) :
      Gathers loader base chain (.ok (name :: names)) tree
        (⟨chain, locate base name, tree⟩ :: (visits ++ others))
        (outcome.map (.ancestor name parent.document ancestry)) final

variable {loader : Loader} {base : String}

/-! ## What gathering keeps -/

section Kept

variable {chain : List String} {declared : Except ConfigError (List String)}
  {tree final : FileTree} {visits : List Visit} {outcome : Except ConfigError Ancestry}

theorem growth_of_gathers
    (gathered : loader.Gathers base chain declared tree visits outcome final) :
    tree.Growth final := by
  induction gathered with
  | malformed chain error tree => exact .refl tree
  | empty chain tree => exact .refl tree
  | cyclic known => exact .refl _
  | refused fresh load => exact growth_of_load load
  | missing fresh load => exact growth_of_load load
  | above fresh load inner ih =>
      exact (growth_of_load load).trans ih
  | ancestor fresh load inner rest ihInner ihRest =>
      exact ((growth_of_load load).trans ihInner).trans ihRest

theorem covers_of_gathers {written : List String}
    (gathered : loader.Gathers base chain declared tree visits outcome final)
    (covers : loader.Covers written tree) : loader.Covers written final := by
  induction gathered with
  | malformed chain error tree => exact covers
  | empty chain tree => exact covers
  | cyclic known => exact covers
  | refused fresh load => exact covers.after_load load
  | missing fresh load => exact covers.after_load load
  | above fresh load inner ih => exact ih (covers.after_load load)
  | ancestor fresh load inner rest ihInner ihRest =>
      exact ihRest (ihInner (covers.after_load load))

/-- A visit leads on to the end of the gathering.  One that finds no document is the last one. -/
theorem load_of_visit
    (gathered : loader.Gathers base chain declared tree visits outcome final) :
    ∀ visit ∈ visits,
      ((loader.load visit.location).after visit.tree).2.Growth final ∧
        ((∃ parent, ((loader.load visit.location).after visit.tree).1 = .ok (some parent)) ∨
          (∃ error, outcome = .error error) ∧
            ((loader.load visit.location).after visit.tree).2 = final) := by
  induction gathered with
  | malformed chain error tree => simp
  | empty chain tree => simp
  | cyclic known => simp
  | refused fresh load =>
      intro visit member
      obtain rfl := List.mem_singleton.mp member
      simp only [load]
      exact ⟨.refl _, .inr ⟨⟨_, rfl⟩, trivial⟩⟩
  | missing fresh load =>
      intro visit member
      obtain rfl := List.mem_singleton.mp member
      simp only [load]
      exact ⟨.refl _, .inr ⟨⟨_, rfl⟩, trivial⟩⟩
  | above fresh load inner ih =>
      intro visit member
      rcases List.mem_cons.mp member with rfl | deeper
      · simp only [load]
        exact ⟨growth_of_gathers inner, .inl ⟨_, rfl⟩⟩
      · exact ih visit deeper
  | @ancestor chain name names tree later middle final parent visits others above outcome
      fresh load inner rest ihInner ihRest =>
      intro visit member
      rcases List.mem_cons.mp member with rfl | deeper
      · simp only [load]
        exact ⟨(growth_of_gathers inner).trans (growth_of_gathers rest), .inl ⟨_, rfl⟩⟩
      · rcases List.mem_append.mp deeper with inAbove | beside
        · -- All visits above a gathered ancestor found documents.
          obtain ⟨growth, found | ⟨⟨error, failed⟩, -⟩⟩ := ihInner visit inAbove
          · exact ⟨growth.trans (growth_of_gathers rest), .inl found⟩
          · cases failed
        · obtain ⟨growth, found | ⟨⟨error, rfl⟩, last⟩⟩ := ihRest visit beside
          · exact ⟨growth, .inl found⟩
          · exact ⟨growth, .inr ⟨⟨error, rfl⟩, last⟩⟩

theorem growth_of_visit
    (gathered : loader.Gathers base chain declared tree visits outcome final) {visit : Visit}
    (member : visit ∈ visits) : visit.tree.Growth final :=
  (growth_load ..).trans (load_of_visit gathered visit member).1

/-- A location that is visited keeps its identity to the end. -/
theorem identity_of_visit
    (gathered : loader.Gathers base chain declared tree visits outcome final) {visit : Visit}
    (member : visit ∈ visits) : visit.location.identity final = visit.identity := by
  obtain ⟨-, ⟨parent, found⟩ | ⟨-, last⟩⟩ := load_of_visit gathered visit member
  · exact settled_of_load found final (growth_of_visit gathered member)
  · rw [← last]
    exact identity_load ..

end Kept

theorem ancestors_of_not_contains {document : Document}
    (leaf : document.contains extendsKey = false) : document.ancestors = .ok [] := by
  have absent : Mapping.get? document extendsKey = none := by
    simpa [Mapping.contains] using leaf
  rw [Document.ancestors, absent]

/-! ## The expansion of what is gathered -/

/-- What an expander reports of a gathering: the expansion, and the chain that it was given. -/
def reported (below document : Document) (chain : List String)
    (outcome : Except ConfigError Ancestry) :
    Except ConfigError (Option Expansion × List String) :=
  outcome.map fun ancestry => (some (ancestry.expansion below document), chain)

theorem reported_empty (below document : Document) (chain : List String) :
    reported below document chain (.ok .empty) =
      .ok (some ⟨below.merge document, []⟩, chain) := by
  simp [reported, Except.map, Ancestry.expansion, Ancestry.flat, Ancestry.names]

theorem reported_ancestor (below document parent : Document) (chain : List String) (name : String)
    (above others : Ancestry) :
    reported below document chain (.ok (.ancestor name parent above others)) =
      .ok (some ⟨((below.merge (above.flat.merge parent)).merge (others.flat.merge document)),
        name :: (above.names ++ others.names)⟩, chain) := by
  simp [reported, Except.map, Ancestry.expansion, Ancestry.flat, Ancestry.names,
    Mapping.merge_assoc]

/-- An ancestor is laid over `below` before and after everything that it extends; the first time
does not show. -/
theorem merge_ancestor (below parent : Document) (above : Ancestry) :
    (below.merge parent).merge (above.flat.merge parent) =
      below.merge (above.flat.merge parent) := by
  rw [← Mapping.merge_assoc, ← Mapping.merge_assoc, Mapping.merge_between_self]

theorem after_expandAncestor_of_gathers (expander : Expander) (below : Document)
    {chain : List String} {identity : String} {parent : Document} {tree final : FileTree}
    {visits : List Visit} {outcome : Except ConfigError Ancestry}
    (gathered : loader.Gathers base (chain ++ [identity]) parent.ancestors tree visits outcome
      final)
    (expands : parent.contains extendsKey = true →
      (expander parent (below.merge parent)).after (chain ++ [identity]) tree =
        (reported (below.merge parent) parent (chain ++ [identity]) outcome, final)) :
    (expandAncestor expander identity parent below).after chain tree =
      (reported below parent chain outcome, final) := by
  cases named : parent.contains extendsKey with
  | true =>
      rw [after_expandAncestor_of_contains named, expands named]
      cases outcome with
      | error error => rfl
      | ok above => simp [reported, Except.map, Ancestry.expansion, merge_ancestor]
  | false =>
      rw [after_expandAncestor_of_not_contains named]
      rw [ancestors_of_not_contains named] at gathered
      cases gathered
      rw [reported_empty]

def afterDeclared (loader : Loader) (base : String) (expander : Expander)
    (declared : Except ConfigError (List String)) (document below : Document)
    (chain : List String) (tree : FileTree) :
    Except ConfigError (Option Expansion × List String) × FileTree :=
  match declared with
  | .error error => (.error error, tree)
  | .ok names => (loader.expandAncestors base expander document names below).after chain tree

theorem afterDeclared_ok (loader : Loader) (base : String) (expander : Expander)
    (names : List String) (document below : Document) (chain : List String) (tree : FileTree) :
    loader.afterDeclared base expander (.ok names) document below chain tree =
      (loader.expandAncestors base expander document names below).after chain tree := rfl

theorem after_expandWithin (loader : Loader) (base : String) (depth : Nat)
    (document below : Document) (chain : List String) (tree : FileTree) :
    (loader.expandWithin base (depth + 1) document below).after chain tree =
      loader.afterDeclared base (loader.expandWithin base depth) document.ancestors document below
        chain tree :=
  after_expandWithin_succ ..

theorem lt_length_push {length depth : Nat} {chain : List String}
    (enough : length < chain.length + (depth + 1)) (identity : String) :
    length < (chain ++ [identity]).length + depth := by
  rw [List.length_append, List.length_singleton]
  omega

/-- An expansion comes to what is gathered when its depth is above the number of identities that
any visit finds in its chain. -/
theorem afterDeclared_of_gathers {chain : List String}
    {declared : Except ConfigError (List String)} {tree final : FileTree} {visits : List Visit}
    {outcome : Except ConfigError Ancestry}
    (gathered : loader.Gathers base chain declared tree visits outcome final) (depth : Nat)
    (enough : ∀ visit ∈ visits, visit.chain.length < chain.length + depth)
    (document below : Document) :
    loader.afterDeclared base (loader.expandWithin base depth) declared document below chain tree =
      (reported below document chain outcome, final) := by
  -- The depth falls where an ancestor is entered, which lengthens the chain; beside it, it stays.
  induction gathered generalizing depth document below with
  | malformed chain error tree => rfl
  | empty chain tree =>
      rw [reported_empty]
      rfl
  | cyclic known =>
      simp only [afterDeclared_ok, after_expandAncestors_cons, after_loadAncestor, if_pos known]
      rfl
  | refused fresh load =>
      simp only [afterDeclared_ok, after_expandAncestors_cons, after_loadAncestor, if_neg fresh,
        load]
      rfl
  | missing fresh load =>
      simp only [afterDeclared_ok, after_expandAncestors_cons, after_loadAncestor, if_neg fresh,
        load]
      rfl
  | @above chain name names tree later final parent visits error fresh load inner ih =>
      cases depth with
      | zero => simp at enough
      | succ depth =>
          have deep : ∀ visit ∈ visits, visit.chain.length <
              (chain ++ [(locate base name).identity tree]).length + depth := by
            intro visit member
            exact lt_length_push (enough visit (List.mem_cons_of_mem _ member)) _
          have parentRun := after_expandAncestor_of_gathers _ below inner fun _ =>
            (after_expandWithin ..).trans (ih depth deep parent.document _)
          simp only [afterDeclared_ok, after_expandAncestors_cons, after_loadAncestor,
            if_neg fresh, load, parentRun]
          rfl
  | @ancestor chain name names tree later middle final parent visits others ancestry outcome
      fresh load inner rest ihInner ihRest =>
      cases depth with
      | zero => simp at enough
      | succ depth =>
          have deep : ∀ visit ∈ visits, visit.chain.length <
              (chain ++ [(locate base name).identity tree]).length + depth := by
            intro visit member
            have inAbove : visit ∈ visits ++ others := List.mem_append_left others member
            exact lt_length_push (enough visit (List.mem_cons_of_mem _ inAbove)) _
          have parentRun := after_expandAncestor_of_gathers _ below inner fun _ =>
            (after_expandWithin ..).trans (ihInner depth deep parent.document _)
          have restRun := ihRest (depth + 1)
            (fun visit member =>
              enough visit (List.mem_cons_of_mem _ (List.mem_append_right _ member)))
            document (ancestry.expansion below parent.document).document
          rw [afterDeclared_ok] at restRun
          simp only [afterDeclared_ok, after_expandAncestors_cons, after_loadAncestor,
            if_neg fresh, load, parentRun]
          cases outcome with
          | error error =>
              simp only [reported, Except.map, restRun]
          | ok others =>
              rw [Except.map, reported_ancestor]
              simp only [reported, Except.map, restRun]
              rfl

/-- What an expander does when its depth is not used up: it gathers, and reports what it gathered.
The chain is given back in either case. -/
def Reports (loader : Loader) (base : String) (declared : Except ConfigError (List String))
    (document below : Document) (chain : List String) (tree : FileTree)
    (run : Except ConfigError (Option Expansion × List String) × FileTree) : Prop :=
  run.1 = .ok (none, chain) ∨
    ∃ visits outcome, loader.Gathers base chain declared tree visits outcome run.2 ∧
      run.1 = reported below document chain outcome

theorem reports_expandAncestor {expander : Expander}
    (expands : ∀ document below chain tree, loader.Reports base document.ancestors document below
      chain tree ((expander document below).after chain tree))
    (identity : String) (parent below : Document) (chain : List String) (tree : FileTree) :
    ((expandAncestor expander identity parent below).after chain tree).1 = .ok (none, chain) ∨
      ∃ visits outcome,
        loader.Gathers base (chain ++ [identity]) parent.ancestors tree visits outcome
          ((expandAncestor expander identity parent below).after chain tree).2 ∧
        ((expandAncestor expander identity parent below).after chain tree).1 =
          reported below parent chain outcome := by
  cases named : parent.contains extendsKey with
  | true =>
      rcases expands parent (below.merge parent) (chain ++ [identity]) tree with
        exhausted | ⟨visits, outcome, gathered, run⟩
      · left
        rw [after_expandAncestor_of_contains named]
        generalize (expander parent (below.merge parent)).after (chain ++ [identity]) tree = inner
          at exhausted ⊢
        obtain ⟨result, later⟩ := inner
        subst exhausted
        simp
      · right
        have parentRun := after_expandAncestor_of_gathers expander below gathered
          fun _ => Prod.ext run rfl
        rw [parentRun]
        exact ⟨visits, outcome, gathered, rfl⟩
  | false =>
      right
      rw [after_expandAncestor_of_not_contains named, ancestors_of_not_contains named]
      exact ⟨[], .ok .empty, .empty _ _, (reported_empty ..).symm⟩

theorem reports_expandAncestors {expander : Expander}
    (expands : ∀ document below chain tree, loader.Reports base document.ancestors document below
      chain tree ((expander document below).after chain tree))
    (document : Document) (names : List String) (below : Document) (chain : List String)
    (tree : FileTree) :
    loader.Reports base (.ok names) document below chain tree
      ((loader.expandAncestors base expander document names below).after chain tree) := by
  induction names generalizing below tree with
  | nil => exact .inr ⟨[], .ok .empty, .empty _ _, (reported_empty ..).symm⟩
  | cons name names ih =>
      rw [after_expandAncestors_cons, after_loadAncestor]
      by_cases known : (locate base name).identity tree ∈ chain
      · rw [if_pos known]
        exact .inr ⟨_, _, .cyclic known, rfl⟩
      · rw [if_neg known]
        rcases load : (loader.load (locate base name)).after tree with
          ⟨error | _ | parent, later⟩
        · exact .inr ⟨_, _, .refused known load, rfl⟩
        · exact .inr ⟨_, _, .missing known load, rfl⟩
        · simp only
          have parentRun := reports_expandAncestor expands ((locate base name).identity tree)
            parent.document below chain later
          generalize (expandAncestor expander ((locate base name).identity tree) parent.document
            below).after chain later = inner at parentRun ⊢
          obtain ⟨result, middle⟩ := inner
          rcases parentRun with rfl | ⟨visits, outcome, gathered, rfl⟩
          · exact .inl rfl
          · cases outcome with
            | error error => exact .inr ⟨_, _, .above known load gathered, rfl⟩
            | ok above =>
                have restRun := ih (above.expansion below parent.document).document middle
                simp only [reported, Except.map]
                generalize (loader.expandAncestors base expander document names
                  (above.expansion below parent.document).document).after chain middle = outer
                  at restRun ⊢
                obtain ⟨result, final⟩ := outer
                rcases restRun with rfl | ⟨others, outcome, gatheredRest, rfl⟩
                · exact .inl rfl
                · cases outcome with
                  | error error =>
                      exact .inr ⟨_, _, .ancestor known load gathered gatheredRest, rfl⟩
                  | ok rest =>
                      exact .inr ⟨_, _, .ancestor known load gathered gatheredRest,
                        (reported_ancestor ..).symm⟩

theorem reports_expandWithin (loader : Loader) (base : String) (depth : Nat)
    (document below : Document) (chain : List String) (tree : FileTree) :
    loader.Reports base document.ancestors document below chain tree
      ((loader.expandWithin base depth document below).after chain tree) := by
  induction depth generalizing document below chain tree with
  | zero => exact .inl rfl
  | succ depth ih =>
      rw [after_expandWithin]
      cases document.ancestors with
      | error error => exact .inr ⟨[], _, .malformed chain error tree, rfl⟩
      | ok names => exact reports_expandAncestors ih document names below chain tree

end Loader

end LayeredConfig
