import LayeredConfig.Proofs.Extends.Replay
import LayeredConfig.Proofs.Resolution.Consultation

/-!
# Resolution once more

A resolution changes no file but the copies of the documents that it fetches.  Where no file of this
machine that it looks for is one of these copies, it comes to the same once more, with the same
error if it fails, and leaves all files as they are.
-/

set_option autoImplicit false

namespace LayeredConfig

open Files

namespace Loader

variable {loader : Loader} {environment : Environment} {workspace : Option String}
  {parameters : Document} {tree later other final : FileTree} {places : Place → Prop}

/-- The documents that a resolution loads, each with the tree that it finds. -/
inductive Loads (loader : Loader) (environment : Environment) (workspace : Option String)
    (parameters : Document) (tree : FileTree) : Location → FileTree → Prop where
  | primary
      (based : ¬ (workspace = none ∧ namedDocument (upperLayers environment parameters) = none)) :
      Loads loader environment workspace parameters tree
        (primaryLocation tree (workspace.getD defaultWorkspace)
          (namedDocument (upperLayers environment parameters))) tree
  | ancestor {base : Base} {later final : FileTree} {visits : List Visit}
      {outcome : Except ConfigError Ancestry} {visit : Visit}
      (based : ¬ (workspace = none ∧ namedDocument (upperLayers environment parameters) = none))
      (loaded : (loader.loadBase (workspace.getD defaultWorkspace)
        (namedDocument (upperLayers environment parameters))
        (upperLayers environment parameters)).after tree = (.ok base, later))
      (gathered : loader.Gathers (workspace.getD defaultWorkspace)
        (startingChain later base.origin) base.document.ancestors later visits outcome final)
      (member : visit ∈ visits) :
      Loads loader environment workspace parameters tree visit.location visit.tree

/-- A place where a resolution puts the copy of a document that it has fetched. -/
def Persists (loader : Loader) (environment : Environment) (workspace : Option String)
    (parameters : Document) (tree : FileTree) (place : Place) : Prop :=
  ∃ url found path bytes,
    loader.Loads environment workspace parameters tree (.remote url) found ∧
    loader.fetch url = .ok bytes ∧ loader.copyPath url = .ok path ∧
    FileTree.EndsAt place (found.find path)

/-- No path on this machine that a resolution looks at leads to the copy of a document. -/
def Undisturbed (loader : Loader) (environment : Environment) (workspace : Option String)
    (parameters : Document) (tree : FileTree) : Prop :=
  ∀ path found, loader.Consults environment workspace parameters tree (.file path) found →
    ∀ place, loader.Persists environment workspace parameters tree place →
      ¬ FileTree.EndsAt place (found.find path)

theorem persists_of_mem_copiesOf {location : Location} {found : FileTree} {copy : Copy}
    (loads : loader.Loads environment workspace parameters tree location found)
    (member : copy ∈ loader.copiesOf found location) :
    loader.Persists environment workspace parameters tree copy.place := by
  obtain ⟨url, path, rfl, copied, fetched, ends⟩ := endsAt_of_mem_copiesOf member
  exact ⟨url, found, path, copy.bytes, loads, fetched, copied, ends⟩

/-! ## The copies that a resolution leaves -/

/-- The copies that a resolution leaves, in the order in which they are written. -/
inductive Leaves (loader : Loader) (environment : Environment) (workspace : Option String)
    (parameters : Document) (tree : FileTree) : List Copy → Prop where
  | nothing (given : workspace = none)
      (unnamed : namedDocument (upperLayers environment parameters) = none) :
      Leaves loader environment workspace parameters tree []
  | primary {error : ConfigError} {later : FileTree}
      (based : ¬ (workspace = none ∧ namedDocument (upperLayers environment parameters) = none))
      (loaded : (loader.loadBase (workspace.getD defaultWorkspace)
        (namedDocument (upperLayers environment parameters))
        (upperLayers environment parameters)).after tree = (.error error, later)) :
      Leaves loader environment workspace parameters tree
        (loader.copiesOf tree (primaryLocation tree (workspace.getD defaultWorkspace)
          (namedDocument (upperLayers environment parameters))))
  | ancestors {base : Base} {later final : FileTree} {visits : List Visit}
      {outcome : Except ConfigError Ancestry}
      (based : ¬ (workspace = none ∧ namedDocument (upperLayers environment parameters) = none))
      (loaded : (loader.loadBase (workspace.getD defaultWorkspace)
        (namedDocument (upperLayers environment parameters))
        (upperLayers environment parameters)).after tree = (.ok base, later))
      (gathered : loader.Gathers (workspace.getD defaultWorkspace)
        (startingChain later base.origin) base.document.ancestors later visits outcome final) :
      Leaves loader environment workspace parameters tree
        (loader.copiesOf tree (primaryLocation tree (workspace.getD defaultWorkspace)
          (namedDocument (upperLayers environment parameters))) ++ loader.copiesOn visits)

theorem exists_leaves (loader : Loader) (environment : Environment) (workspace : Option String)
    (parameters : Document) (tree : FileTree) :
    ∃ copies, loader.Leaves environment workspace parameters tree copies := by
  by_cases bare :
      workspace = none ∧ namedDocument (upperLayers environment parameters) = none
  · exact ⟨_, .nothing bare.1 bare.2⟩
  · rcases loaded : (loader.loadBase (workspace.getD defaultWorkspace)
      (namedDocument (upperLayers environment parameters))
      (upperLayers environment parameters)).after tree with ⟨error | base, later⟩
    · exact ⟨_, .primary bare loaded⟩
    · obtain ⟨visits, outcome, final, gathered⟩ :=
        loader.exists_gathers_of_document _ base.document base.origin later
      exact ⟨_, .ancestors bare loaded gathered⟩

theorem Leaves.persists {copies : List Copy}
    (leaves : loader.Leaves environment workspace parameters tree copies) :
    ∀ copy ∈ copies, loader.Persists environment workspace parameters tree copy.place := by
  intro copy member
  cases leaves with
  | nothing given unnamed => cases member
  | primary based loaded => exact persists_of_mem_copiesOf (.primary based) member
  | ancestors based loaded gathered =>
      rcases List.mem_append.mp member with ofPrimary | ofAncestors
      · exact persists_of_mem_copiesOf (.primary based) ofPrimary
      · obtain ⟨visit, visited, left⟩ := List.mem_flatMap.mp ofAncestors
        exact persists_of_mem_copiesOf (.ancestor based loaded gathered visited) left

theorem Leaves.below {copies : List Copy}
    (leaves : loader.Leaves environment workspace parameters tree copies) :
    ∀ copy ∈ copies, copy.place ≠ [] := by
  intro copy member
  obtain ⟨url, found, path, bytes, -, -, -, ends⟩ := leaves.persists copy member
  exact FileTree.ne_root_of_endsAt ends

theorem putCopies_of_loadBase {directory : String} {named : Option String} {upper : Document}
    {result : Except ConfigError Base}
    (loaded : (loader.loadBase directory named upper).after tree = (result, later)) :
    later = tree.putCopies (loader.copiesOf tree (primaryLocation tree directory named)) := by
  rw [← tree_of_load_eq]
  rw [after_loadBase] at loaded
  rcases load : (loader.load (primaryLocation tree directory named)).after tree with
    ⟨error | _ | primary, middle⟩ <;> rw [load] at loaded
  · exact (congrArg Prod.snd loaded).symm
  · cases named <;> exact (congrArg Prod.snd loaded).symm
  · exact (congrArg Prod.snd loaded).symm

theorem differs_of_loadBase {directory : String} {named : Option String} {upper : Document}
    {result : Except ConfigError Base}
    (loaded : (loader.loadBase directory named upper).after tree = (result, later))
    (differs : tree.DiffersInFiles places other) :
    later.DiffersInFiles places
      (other.putCopies (loader.copiesOf tree (primaryLocation tree directory named))) := by
  rw [putCopies_of_loadBase loaded]
  exact differs.putCopies (below_copiesOf _ _ _)

/-- The run that comes of a base and of what was gathered for it. -/
def runOf (base : Base) (ancestry : Ancestry) : RunConfig :=
  ⟨(ancestry.expansion ∅ base.document).document,
    appendLines base.sources (ancestry.expansion ∅ base.document).lines⟩

theorem after_expandBase_of_gathers {directory : String} {base : Base} {visits : List Visit}
    {outcome : Except ConfigError Ancestry}
    (gathered : loader.Gathers directory (startingChain tree base.origin) base.document.ancestors
      tree visits outcome final) :
    (loader.expandBase directory base).after tree = (outcome.map (runOf base), final) := by
  cases extending : base.document.contains extendsKey with
  | false =>
      rw [after_expandBase_of_not_contains extending]
      rw [ancestors_of_not_contains extending] at gathered
      cases gathered
      simp [Except.map, runOf, Ancestry.expansion, Ancestry.flat, Ancestry.names, Expansion.lines,
        appendLines]
  | true =>
      rw [after_expandBase_of_contains extending, after_expand_of_gathers gathered]
      cases outcome <;> rfl

theorem Leaves.tree_of_resolve {copies : List Copy}
    (leaves : loader.Leaves environment workspace parameters tree copies) :
    ((loader.resolve environment workspace parameters).after tree).2 = tree.putCopies copies := by
  cases leaves with
  | nothing given unnamed =>
      rw [given, after_resolve_of_none unnamed]
      rfl
  | primary based loaded =>
      rw [after_resolve_of_some based, loaded]
      exact putCopies_of_loadBase loaded
  | ancestors based loaded gathered =>
      rw [after_resolve_of_some based, loaded]
      simp only [after_expandBase_of_gathers gathered]
      rw [putCopies_of_gathers gathered, putCopies_of_loadBase loaded, FileTree.putCopies_append]

/-- A resolution changes no file but the copies of the documents that it fetches. -/
theorem persists_of_changed {place : Place}
    (changed : FileTree.entry? ((loader.resolve environment workspace parameters).after tree).2
      place ≠ tree.entry? place) :
    loader.Persists environment workspace parameters tree place := by
  obtain ⟨copies, leaves⟩ := loader.exists_leaves environment workspace parameters tree
  rw [leaves.tree_of_resolve] at changed
  by_cases written : place ∈ copies.map Copy.place
  · obtain ⟨copy, member, rfl⟩ := List.mem_map.mp written
    exact leaves.persists copy member
  · exact absurd (FileTree.entry?_putCopies_of_not_mem leaves.below written) changed

/-! ## Resolving from the files that were left -/

theorem after_loadBase_again {directory : String} {named : Option String} {upper : Document}
    {result : Except ConfigError Base}
    (loaded : (loader.loadBase directory named upper).after tree = (result, later))
    (differs : tree.DiffersInFiles places other)
    (sameLocation : primaryLocation other directory named = primaryLocation tree directory named)
    (avoids : (primaryLocation tree directory named).Avoids places tree)
    (settled : ∀ error, result = .error error →
      other.putCopies (loader.copiesOf tree (primaryLocation tree directory named)) = later) :
    (loader.loadBase directory named upper).after other =
        (result, other.putCopies (loader.copiesOf tree (primaryLocation tree directory named))) ∧
      ∀ base, result = .ok base →
        startingChain (other.putCopies
            (loader.copiesOf tree (primaryLocation tree directory named))) base.origin =
          startingChain later base.origin := by
  rcases load : (loader.load (primaryLocation tree directory named)).after tree with
    ⟨outcome, middle⟩
  have loadedAgain := after_load_again load differs avoids fun error failed => by
    have run := loaded
    rw [after_loadBase, load, failed] at run
    cases run
    exact settled error rfl
  obtain ⟨based, run, runAgain, sameOrigin⟩ :=
    after_loadBase_of_load upper sameLocation (avoids.identity_eq differs) load loadedAgain
  rw [loaded] at run
  cases run
  exact ⟨runAgain, sameOrigin⟩

theorem Leaves.again {copies : List Copy}
    (leaves : loader.Leaves environment workspace parameters tree copies)
    (avoids : ∀ location found,
      loader.Consults environment workspace parameters tree location found →
        location.Avoids (· ∈ copies.map Copy.place) found) :
    (loader.resolve environment workspace parameters).after (tree.putCopies copies) =
      (loader.resolve environment workspace parameters).after tree := by
  have growth := loader.growth_resolve environment workspace parameters tree
  rw [leaves.tree_of_resolve] at growth
  have differs := FileTree.differsInFiles_putCopies leaves.below growth
  -- All copies are there before the second run, so writing them once more changes nothing.
  have settled := FileTree.putCopies_putCopies tree copies
  cases leaves with
  | nothing given unnamed => rfl
  | primary based loaded =>
      have sameLocation := primaryLocation_eq_of_consulted based fun path consulted =>
        differs.isFile_eq (avoids _ _ consulted)
      obtain ⟨loadedAgain, -⟩ := after_loadBase_again loaded differs sameLocation
        (avoids _ _ (.primary based)) fun error _ => by
          rw [settled, putCopies_of_loadBase loaded]
      rw [after_resolve_of_some based, after_resolve_of_some based, loaded, loadedAgain, settled,
        putCopies_of_loadBase loaded]
  | ancestors based loaded gathered =>
      have sameLocation := primaryLocation_eq_of_consulted based fun path consulted =>
        differs.isFile_eq (avoids _ _ consulted)
      obtain ⟨loadedAgain, sameOrigin⟩ := after_loadBase_again loaded differs sameLocation
        (avoids _ _ (.primary based)) fun error failed => by cases failed
      have differsLater := differs_of_loadBase loaded differs
      have left := putCopies_of_gathers gathered
      rw [putCopies_of_loadBase loaded, ← FileTree.putCopies_append] at left
      subst left
      rw [FileTree.putCopies_append] at settled
      obtain ⟨visitsAgain, gatheredAgain⟩ := gathers_again gathered differsLater
        (fun location found met => avoids location found (.item based loaded met))
        fun error _ => settled
      rw [← sameOrigin _ rfl, settled] at gatheredAgain
      rw [after_resolve_of_some based, after_resolve_of_some based, loaded, loadedAgain]
      simp only [after_expandBase_of_gathers gathered, after_expandBase_of_gathers gatheredAgain]

/-- A resolution may be repeated.  Unless it looks on this machine where it puts the copy of a
document, it comes to the same from the files that it has left, and leaves them as they are.  In any
tree, it changes no file but the copies of the documents that it fetches. -/
theorem resolve_repeats (loader : Loader) (environment : Environment) (workspace : Option String)
    (parameters : Document) (tree : FileTree) :
    (loader.Undisturbed environment workspace parameters tree →
      (loader.resolve environment workspace parameters).after
          ((loader.resolve environment workspace parameters).after tree).2 =
        (loader.resolve environment workspace parameters).after tree) ∧
      ∀ place,
        FileTree.entry? ((loader.resolve environment workspace parameters).after tree).2 place ≠
            tree.entry? place →
          loader.Persists environment workspace parameters tree place := by
  refine ⟨?_, fun place => persists_of_changed⟩
  intro undisturbed
  obtain ⟨copies, leaves⟩ := loader.exists_leaves environment workspace parameters tree
  rw [leaves.tree_of_resolve]
  refine leaves.again ?_
  intro location found consulted
  cases location with
  | remote url => trivial
  | file path =>
      intro place written
      obtain ⟨copy, member, rfl⟩ := List.mem_map.mp written
      exact undisturbed path found consulted copy.place (leaves.persists copy member)

/-! ## Copies in one place -/

/-- A server answers with the document. -/
def answering (text : String) : Web.Answer :=
  .response ⟨Web.statusOk, Text.bytesOf text, none, false, none⟩

/-- Two documents whose addresses end in the same name. -/
def serving : Loader where
  network := .serving
    [("http://host/a/top.yml", answering "A: 1\n"),
      ("http://host/b/top.yml", answering "A: 3\n")]
  bodyLimit := usualBodyLimit
  temporary := "/t"

def servedFiles : FileTree where
  entries :=
    [(["t"], .directory), (["w"], .directory),
      (["top.yml", "w"], .file (Text.bytesOf "B: 2\n"))]
  current := []

def servedParameters : Document :=
  Mapping.ofList
    [("EXTENDS", .text "http://host/a/top.yml, top.yml, http://host/b/top.yml")]

def servedBase : Base :=
  ⟨servedParameters, none, sourcesWithoutDocument "/w"⟩

def firstCopy : FileTree :=
  servedFiles.setEntry ["top.yml", "t"] (.file (Text.bytesOf "A: 1\n"))

def secondCopy : FileTree :=
  servedFiles.setEntry ["top.yml", "t"] (.file (Text.bytesOf "A: 3\n"))

theorem primaryLocation_served :
    primaryLocation servedFiles "/w" (namedDocument (upperLayers ∅ servedParameters)) =
      .file "/w/.mega-linter.yml" := by
  decide

theorem loadBase_served :
    (serving.loadBase "/w" (namedDocument (upperLayers ∅ servedParameters))
      (upperLayers ∅ servedParameters)).after servedFiles = (.ok servedBase, servedFiles) := by
  decide +kernel

theorem ancestors_served : servedBase.document.ancestors =
    .ok ["http://host/a/top.yml", "top.yml", "http://host/b/top.yml"] := by
  decide

theorem load_served :
    (serving.load (locate "/w" "http://host/a/top.yml")).after servedFiles =
        (.ok (some ⟨"/t/top.yml", Mapping.ofList [("A", .integer 1)]⟩), firstCopy) ∧
      (serving.load (locate "/w" "top.yml")).after firstCopy =
        (.ok (some ⟨"/w/top.yml", Mapping.ofList [("B", .integer 2)]⟩), firstCopy) ∧
      (serving.load (locate "/w" "http://host/b/top.yml")).after firstCopy =
        (.ok (some ⟨"/t/top.yml", Mapping.ofList [("A", .integer 3)]⟩), secondCopy) := by
  decide +kernel

theorem leaf_served :
    Document.ancestors (Mapping.ofList [("A", .integer 1)]) = .ok [] ∧
      Document.ancestors (Mapping.ofList [("B", .integer 2)]) = .ok [] ∧
      Document.ancestors (Mapping.ofList [("A", .integer 3)]) = .ok [] := by
  exact ⟨rfl, rfl, rfl⟩

theorem copyPath_served :
    serving.copyPath "http://host/a/top.yml" = .ok "/t/top.yml" ∧
      serving.copyPath "http://host/b/top.yml" = .ok "/t/top.yml" := by
  decide +kernel

theorem persists_served {place : Place}
    (persists : serving.Persists ∅ (some "/w") servedParameters servedFiles place) :
    place = ["top.yml", "t"] := by
  obtain ⟨url, found, path, bytes, loads, -, copied, ends⟩ := persists
  obtain ⟨loadFirst, loadOwn, loadSecond⟩ := load_served
  obtain ⟨leafFirst, leafOwn, leafSecond⟩ := leaf_served
  have leads : servedFiles.find "/t/top.yml" = .ok (.free ["top.yml", "t"]) ∧
      firstCopy.find "/t/top.yml" =
        .ok (.taken ["top.yml", "t"] (.file (Text.bytesOf "A: 1\n"))) := by decide +kernel
  generalize same : Location.remote url = location at loads
  cases loads with
  | primary based =>
      cases same.trans primaryLocation_served
  | ancestor based loaded gathered member =>
      cases loadBase_served.symm.trans loaded
      rw [ancestors_served] at gathered
      rcases visit_of_leaf loadFirst leafFirst gathered member with
        rfl | ⟨_, _, gathered, member⟩
      · cases same
        cases copyPath_served.1.symm.trans copied
        rw [leads.1] at ends
        cases ends
        rfl
      · rcases visit_of_leaf loadOwn leafOwn gathered member with rfl | ⟨_, _, gathered, member⟩
        · cases same
        · rcases visit_of_leaf loadSecond leafSecond gathered member with
            rfl | ⟨_, _, gathered, member⟩
          · cases same
            cases copyPath_served.2.symm.trans copied
            rw [leads.2] at ends
            cases ends
            rfl
          · cases gathered
            cases member

theorem undisturbed_served : serving.Undisturbed ∅ (some "/w") servedParameters servedFiles := by
  intro path found consulted place persists ends
  have copyPlace := persists_served persists
  obtain ⟨loadFirst, loadOwn, loadSecond⟩ := load_served
  obtain ⟨leafFirst, leafOwn, leafSecond⟩ := leaf_served
  have leads : (∀ name ∈ candidates,
        servedFiles.find (joinPath "/w" name) = .ok (.free [name, "w"])) ∧
      firstCopy.find (joinPath "/w" "top.yml") =
        .ok (.taken ["top.yml", "w"] (.file (Text.bytesOf "B: 2\n"))) := by
    decide +kernel
  have candidate : ∀ name ∈ candidates,
      ¬ FileTree.EndsAt place (servedFiles.find (joinPath "/w" name)) := by
    intro name member ends
    rw [leads.1 name member] at ends
    cases ends
    exact absurd (List.cons.inj copyPlace).2 (by decide)
  generalize same : Location.file path = location at consulted
  cases consulted with
  | candidate unnamed given listed passed =>
      cases given
      cases same
      exact candidate _ (by simp [listed]) ends
  | primary based =>
      cases same.trans primaryLocation_served
      exact candidate firstCandidate (List.mem_cons_self ..) ends
  | item based loaded met =>
      cases loadBase_served.symm.trans loaded
      rw [ancestors_served] at met
      rcases met_of_leaf loadFirst leafFirst met with ⟨rfl, rfl⟩ | met
      · cases same
      · rcases met_of_leaf loadOwn leafOwn met with ⟨rfl, rfl⟩ | met
        · cases same
          rw [leads.2] at ends
          cases ends
          exact absurd copyPlace (by decide)
        · rcases met_of_leaf loadSecond leafSecond met with ⟨rfl, rfl⟩ | met
          · cases same
          · cases met

/-- Two documents leave their copy at one place.  The second run writes both once more. -/
theorem resolve_repeats_served :
    serving.Undisturbed ∅ (some "/w") servedParameters servedFiles ∧
      ((serving.resolve ∅ (some "/w") servedParameters).after servedFiles).2 = secondCopy ∧
      (serving.resolve ∅ (some "/w") servedParameters).after secondCopy =
        (serving.resolve ∅ (some "/w") servedParameters).after servedFiles := by
  have left : ((serving.resolve ∅ (some "/w") servedParameters).after servedFiles).2 =
      secondCopy := by
    decide +kernel
  have again :=
    (resolve_repeats serving ∅ (some "/w") servedParameters servedFiles).1 undisturbed_served
  rw [left] at again
  exact ⟨undisturbed_served, left, again⟩

end Loader

end LayeredConfig
