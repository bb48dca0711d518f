import LayeredConfig.Proofs.Files.OneFile
import LayeredConfig.Proofs.Resolution.Primary
import LayeredConfig.Proofs.Resolution.Repetition

/-!
# An empty primary document

A conventional file without entries adds nothing to a configuration but its name among the sources.
Without the file the resolution goes on from the environment and the parameters alone, and gathers
the same ancestors.  The two runs part only where an ancestor is the file itself: it is in the chain
in the one run, so there it is a cycle, and not to be found in the other, so both fail.
-/

set_option autoImplicit false

namespace LayeredConfig

open Files

theorem isAbsolute_of_isRemote {text : String} (remote : isRemote text = true) :
    isAbsolute text = false := by
  rcases isRemote_iff.mp remote with ⟨rest, same⟩ | ⟨rest, same⟩ <;> rw [isAbsolute, ← same] <;> rfl

open FileTree

namespace Loader

variable {loader : Loader} {base name : String} {place : Place} {tree other : FileTree}
  {location : Location}

/-! ## Loading without the file -/

/-- An item that is the file by its identity is not to be found in the other tree. -/
theorem after_load_of_lacksFile (lacks : LacksFile place tree other)
    (here : (locate base name).identity tree = place.path) :
    (loader.load (locate base name)).after other = (.ok none, other) := by
  unfold locate at here ⊢
  split_ifs at here ⊢ with remote
  · -- The identity of an address is the address, which is no absolute path.
    have absolute := place.isAbsolute_path
    rw [← here, Location.identity, isAbsolute_of_isRemote remote] at absolute
    cases absolute
  · exact after_load_of_not_isFile (lacks.isFile_of_identity here) loader

/-- A location with another identity than the file does not lead to the file. -/
theorem avoids_of_identity {location : Location} (lacks : LacksFile place tree other)
    (apart : location.identity tree ≠ place.path) :
    location.Avoids (· = place) tree := by
  cases location with
  | remote url => trivial
  | file path =>
      rintro _ rfl ends
      obtain ⟨⟨bytes, found⟩, -⟩ := lacks.find_of_endsAt ends
      simp only [Location.identity, canonicalPath?, found, Option.getD_some] at apart
      exact apart rfl

/-- A location that fails in one tree fails in every other one that differs in files which the
location avoids. -/
theorem load_fails_too {places : Place → Prop} {error : ConfigError} {later : FileTree}
    (load : (loader.load location).after tree = (.error error, later))
    (differs : tree.DiffersInFiles places other) (avoids : location.Avoids places tree) :
    ∃ errorToo last, (loader.load location).after other = (.error errorToo, last) := by
  cases location with
  | file path =>
      rw [after_load_file, after_loadFile] at load ⊢
      rw [differs.isFile_eq avoids]
      by_cases isFile : tree.isFile path = true
      · rw [if_pos isFile] at load ⊢
        rw [differs.read_eq avoids isFile]
        exact ⟨error, other, Prod.ext (congrArg Prod.fst load :) rfl⟩
      · rw [if_neg isFile] at load
        cases load
  | remote url =>
      rw [after_load_remote, after_loadRemote] at load ⊢
      cases copied : loader.copyPath url with
      | error error => exact ⟨_, _, rfl⟩
      | ok path =>
          cases fetched : loader.fetch url with
          | error error => exact ⟨_, _, rfl⟩
          | ok bytes =>
              cases written : other.write path bytes with
              | error fault =>
                  simp only [written]
                  exact ⟨_, _, rfl⟩
              | ok last =>
                  obtain ⟨another, ends, -⟩ := endsAt_of_write written
                  have endsToo := (differs.symm.leadsAlike path).endsAt ends
                  simp only [copied, fetched, write_of_endsAt endsToo] at load
                  simp only [written]
                  cases read : readRemote url bytes with
                  | error refusal => exact ⟨_, _, rfl⟩
                  | ok document =>
                      rw [read] at load
                      cases load

/-! ## Gathering without the file -/

/-- Two failures, or the same success. -/
inductive BothEnd {α : Type} : Except ConfigError α → Except ConfigError α → Prop where
  | failure (first second : ConfigError) : BothEnd (.error first) (.error second)
  | success (a : α) : BothEnd (.ok a) (.ok a)

theorem BothEnd.map {α β : Type} {first second : Except ConfigError α} (change : α → β)
    (both : BothEnd first second) : BothEnd (first.map change) (second.map change) := by
  cases both with
  | failure one two => exact .failure one two
  | success a => exact .success (change a)

section Gathering

variable {chain : List String} {names : List String}

/-- Without the file, an item that is the file is a cycle or is missing. -/
theorem gathers_at_lackedFile (lacks : LacksFile place tree other)
    (here : (locate base name).identity tree = place.path) (chain names : List String) :
    ∃ visits error last,
      loader.Gathers base chain (.ok (name :: names)) other visits (.error error) last := by
  have load : (loader.load (locate base name)).after other = (.ok none, other) :=
    after_load_of_lacksFile lacks here
  by_cases known : (locate base name).identity other ∈ chain
  · exact ⟨_, _, _, .cyclic known⟩
  · exact ⟨_, _, _, .missing known load⟩

theorem lacksFile_of_load {result : Except ConfigError (Option LoadedDocument)}
    {later : FileTree} (lacks : LacksFile place tree other)
    (load : (loader.load location).after tree = (result, later))
    (apart : ∀ copy ∈ loader.copiesOf tree location, copy.place ≠ place) :
    LacksFile place later (other.putCopies (loader.copiesOf tree location)) := by
  rw [putCopies_of_load load]
  exact lacks.putCopies (below_copiesOf loader tree location) apart

/-- What is gathered under a chain that starts with the file is gathered without the file and under
the rest of the chain, if it succeeds; otherwise both gatherings fail. -/
theorem gathers_without_file {declared : Except ConfigError (List String)} {final : FileTree}
    {visits : List Visit} {outcome : Except ConfigError Ancestry}
    (gathered : loader.Gathers base chain declared tree visits outcome final)
    {rest : List String} (starts : chain = place.path :: rest)
    (lacks : LacksFile place tree other)
    (apart : ∀ copy ∈ loader.copiesOn visits, copy.place ≠ place) :
    ∃ visitsToo outcomeToo last,
      loader.Gathers base rest declared other visitsToo outcomeToo last ∧
        BothEnd outcome outcomeToo ∧
        (∀ ancestry, outcome = .ok ancestry → LacksFile place final last) := by
  -- By induction on the gathering: until it comes to the file, both trees yield the same.
  induction gathered generalizing other rest with
  | malformed chain error tree =>
      exact ⟨_, _, _, .malformed rest error other, .failure error error, nofun⟩
  | empty chain tree => exact ⟨_, _, _, .empty rest other, .success _, fun _ _ => lacks⟩
  | @cyclic chain name names tree known =>
      by_cases here : (locate base name).identity tree = place.path
      · obtain ⟨visits, error, last, gathered⟩ := gathers_at_lackedFile lacks here rest names
        exact ⟨visits, _, last, gathered, .failure _ error, nofun⟩
      · have deeper : (locate base name).identity tree ∈ rest := by
          rw [starts] at known
          exact (List.mem_cons.mp known).resolve_left here
        have same := (avoids_of_identity lacks here).identity_eq lacks.toDiffersInFiles
        rw [← same] at deeper
        exact ⟨_, _, _, .cyclic deeper, .failure _ _, nofun⟩
  | @refused chain name names tree later error fresh load =>
      rw [starts, List.mem_cons, not_or] at fresh
      have avoids := avoids_of_identity lacks fresh.1
      have same := avoids.identity_eq lacks.toDiffersInFiles
      obtain ⟨errorToo, last, loadToo⟩ := load_fails_too load lacks.toDiffersInFiles avoids
      rw [← same] at fresh
      exact ⟨_, _, _, .refused fresh.2 loadToo, .failure error errorToo, nofun⟩
  | @missing chain name names tree later fresh load =>
      rw [starts, List.mem_cons, not_or] at fresh
      have avoids := avoids_of_identity lacks fresh.1
      have same := avoids.identity_eq lacks.toDiffersInFiles
      have loadToo := after_load_again load lacks.toDiffersInFiles avoids nofun
      rw [← same] at fresh
      exact ⟨_, _, _, .missing fresh.2 loadToo, .failure _ _, nofun⟩
  | @above chain name names tree later final parent visits error fresh load inner ih =>
      rw [starts, List.mem_cons, not_or] at fresh
      have avoids := avoids_of_identity lacks fresh.1
      have same := avoids.identity_eq lacks.toDiffersInFiles
      have loadToo := after_load_again load lacks.toDiffersInFiles avoids nofun
      rw [copiesOn_cons] at apart
      obtain ⟨apartHere, apartInner⟩ := List.forall_mem_append.mp apart
      obtain ⟨visitsToo, outcomeToo, last, gatheredToo, both, -⟩ :=
        ih (by rw [starts, List.cons_append]) (lacksFile_of_load lacks load apartHere) apartInner
      rw [← same] at fresh gatheredToo
      cases both with
      | failure _ errorToo =>
          exact ⟨_, _, _, .above fresh.2 loadToo gatheredToo, .failure error errorToo, nofun⟩
  | @ancestor chain name names tree later middle final parent visits others above outcome
      fresh load inner _ ihInner ihRest =>
      rw [starts, List.mem_cons, not_or] at fresh
      have avoids := avoids_of_identity lacks fresh.1
      have same := avoids.identity_eq lacks.toDiffersInFiles
      have loadToo := after_load_again load lacks.toDiffersInFiles avoids nofun
      rw [copiesOn_cons, copiesOn_append] at apart
      obtain ⟨apartHere, apartLater⟩ := List.forall_mem_append.mp apart
      obtain ⟨apartInner, apartRest⟩ := List.forall_mem_append.mp apartLater
      obtain ⟨visitsToo, outcomeToo, middleToo, gatheredToo, both, lacksMiddle⟩ :=
        ihInner (by rw [starts, List.cons_append]) (lacksFile_of_load lacks load apartHere)
          apartInner
      obtain ⟨othersToo, outcomeRest, last, gatheredRest, bothRest, lacksLast⟩ :=
        ihRest starts (lacksMiddle above rfl) apartRest
      rw [← same] at fresh gatheredToo
      cases both with
      | success above =>
          refine ⟨_, _, _, .ancestor fresh.2 loadToo gatheredToo gatheredRest, bothRest.map _, ?_⟩
          intro ancestry success
          cases outcome with
          | error error => cases success
          | ok following => exact lacksLast following rfl

end Gathering

/-! ## Resolving without the file -/

section Resolving

variable {environment : Environment} {directory : String} {parameters : Document}
  {bytes : List UInt8}

/-- The base of a resolution with an empty primary document. -/
def emptyBase (upper : Document) (path : String) : Base :=
  ⟨upper, some (.file path), sourcesWithDocument path⟩

theorem loadBase_of_empty (upper : Document)
    (found : tree.find (joinPath directory firstCandidate) = .ok (.taken place (.file bytes)))
    (empty : readFile (joinPath directory firstCandidate) bytes = .ok ∅) (loader : Loader) :
    (loader.loadBase directory none upper).after tree =
      (.ok (emptyBase upper (joinPath directory firstCandidate)), tree) := by
  have isFile : tree.isFile (joinPath directory firstCandidate) = true :=
    isFile_iff.mpr ⟨place, bytes, found⟩
  have read := read_of_find found
  have listed : candidates = [] ++ firstCandidate :: otherCandidates := rfl
  have load : (loader.load (.file (joinPath directory firstCandidate))).after tree =
      (.ok (some ⟨joinPath directory firstCandidate, ∅⟩), tree) := by
    rw [after_load_file, after_loadFile, if_pos isFile, read]
    simp only [empty]
    rfl
  have passed : ∀ earlier ∈ [], tree.isFile (joinPath directory earlier) = false :=
    List.forall_mem_nil _
  rw [after_loadBase, primaryLocation, discover_of_first listed passed isFile, load]
  simp only [Mapping.empty_merge, emptyBase]

/-- An empty conventional file masks nothing.  Without it the resolution fails if it fails with it,
or comes to the same document with the same ancestors, unless a copy is left over the file. -/
theorem empty_primary_masks_nothing (loader : Loader)
    (unnamed : namedDocument (upperLayers environment parameters) = none)
    (named : tree.current.Named)
    (stands : tree.place? (joinPath directory firstCandidate) = some place)
    (found : tree.find (joinPath directory firstCandidate) = .ok (.taken place (.file bytes)))
    (empty : readFile (joinPath directory firstCandidate) bytes = .ok ∅)
    (others : ∀ name ∈ otherCandidates, tree.isFile (joinPath directory name) = false)
    (apart : ¬ loader.Persists environment (some directory) parameters tree place) :
    (∃ error errorToo : ConfigError,
      ((loader.resolve environment (some directory) parameters).after tree).1 = .error error ∧
      ((loader.resolve environment (some directory) parameters).after
        (tree.removeFile (joinPath directory firstCandidate))).1 = .error errorToo) ∨
    ∃ (document : Document) (names : List String),
      ((loader.resolve environment (some directory) parameters).after tree).1 =
        .ok ⟨document, appendLines (sourcesWithDocument (joinPath directory firstCandidate))
          (names.map ancestorLine)⟩ ∧
      ((loader.resolve environment (some directory) parameters).after
        (tree.removeFile (joinPath directory firstCandidate))).1 =
        .ok ⟨document, appendLines (sourcesWithoutDocument directory)
          (names.map ancestorLine)⟩ := by
  have there : tree.entry? place = some (.file bytes) := fits_of_find found
  have lacks := lacksFile_dropEntry named found
  rw [removeFile_of_place? stands there]
  have based : ¬ (some directory = none ∧
      namedDocument (upperLayers environment parameters) = none) := based_of_workspace rfl
  have loaded := loadBase_of_empty (upperLayers environment parameters) found empty loader
  rw [← unnamed] at loaded
  obtain ⟨visits, outcome, final, gathered⟩ := loader.exists_gathers_of_document directory
    (upperLayers environment parameters) (some (.file (joinPath directory firstCandidate))) tree
  have starts : startingChain tree (some (.file (joinPath directory firstCandidate))) =
      [place.path] := by
    simp [startingChain, Location.identity, canonicalPath?, found]
  have unwritten : ∀ copy ∈ loader.copiesOn visits, copy.place ≠ place := by
    rintro copy member rfl
    obtain ⟨visit, visited, left⟩ := List.mem_flatMap.mp member
    exact apart (persists_of_mem_copiesOf (.ancestor based loaded gathered visited) left)
  obtain ⟨visitsToo, outcomeToo, last, gatheredToo, both, -⟩ :=
    gathers_without_file gathered starts lacks unwritten
  have absent : ∀ name ∈ candidates,
      (tree.dropEntry place).isFile (joinPath directory name) = false := by
    refine List.forall_mem_cons.mpr ⟨lacks.isFile_of_endsAt ?_, ?_⟩
    · rw [found]
      exact .file bytes
    · intro name member
      exact lacks.isFile_of_not_isFile (others name member)
  have run : (loader.resolve environment (some directory) parameters).after tree =
      (outcome.map (runOf (emptyBase (upperLayers environment parameters)
        (joinPath directory firstCandidate))), final) := by
    rw [after_resolve_of_some based, Option.getD_some, loaded]
    exact after_expandBase_of_gathers gathered
  have runToo : (loader.resolve environment (some directory) parameters).after
      (tree.dropEntry place) =
        (outcomeToo.map (runOf ⟨upperLayers environment parameters, none,
          sourcesWithoutDocument directory⟩), last) := by
    rw [after_resolve_of_no_candidate unnamed absent]
    exact after_expandBase_of_gathers gatheredToo
  rw [run, runToo]
  cases both with
  | failure error errorToo => exact .inl ⟨error, errorToo, rfl, rfl⟩
  | success ancestry => exact .inr ⟨_, ancestry.names, rfl, rfl⟩

end Resolving

/-! ## A file with a comment -/

def commentFiles : FileTree where
  entries :=
    [(["t"], .directory), (["w"], .directory),
      ([".mega-linter.yml", "w"], .file (Text.bytesOf "# nothing yet\n")),
      (["top.yml", "w"], .file (Text.bytesOf "B: 2\n"))]
  current := ["w"]

def commentParameters : Document :=
  Mapping.ofList [("EXTENDS", .text "http://host/a/top.yml, top.yml")]

def commentCopied : FileTree :=
  commentFiles.setEntry ["top.yml", "t"] (.file (Text.bytesOf "A: 1\n"))

/-- The file adds nothing to the parameters. -/
def commentBase : Base :=
  emptyBase (upperLayers ∅ commentParameters) "/w/.mega-linter.yml"

theorem documents_comment :
    namedDocument (upperLayers ∅ commentParameters) = none ∧
      commentBase.document.ancestors = .ok ["http://host/a/top.yml", "top.yml"] ∧
      readFile "/w/.mega-linter.yml" (Text.bytesOf "# nothing yet\n") = .ok ∅ := by
  decide +kernel

theorem find_comment :
    commentFiles.place? "/w/.mega-linter.yml" = some [".mega-linter.yml", "w"] ∧
      commentFiles.find "/w/.mega-linter.yml" =
        .ok (.taken [".mega-linter.yml", "w"] (.file (Text.bytesOf "# nothing yet\n"))) ∧
      commentFiles.find "/t/top.yml" = .ok (.free ["top.yml", "t"]) ∧
      (∀ name ∈ otherCandidates, commentFiles.isFile (joinPath "/w" name) = false) ∧
      primaryLocation commentFiles "/w" none = .file "/w/.mega-linter.yml" ∧
      (locate "/w" "http://host/a/top.yml").identity commentFiles ∉
        startingChain commentFiles commentBase.origin ∧
      (locate "/w" "top.yml").identity commentCopied ∉
        startingChain commentFiles commentBase.origin := by
  decide +kernel

theorem load_comment :
    (serving.load (locate "/w" "http://host/a/top.yml")).after commentFiles =
        (.ok (some ⟨"/t/top.yml", Mapping.ofList [("A", .integer 1)]⟩), commentCopied) ∧
      serving.copyPath "http://host/a/top.yml" = .ok "/t/top.yml" ∧
      (serving.load (locate "/w" "top.yml")).after commentCopied =
        (.ok (some ⟨"/w/top.yml", Mapping.ofList [("B", .integer 2)]⟩), commentCopied) := by
  decide +kernel

theorem loadBase_comment :
    (serving.loadBase "/w" (namedDocument (upperLayers ∅ commentParameters))
      (upperLayers ∅ commentParameters)).after commentFiles = (.ok commentBase, commentFiles) := by
  have path : joinPath "/w" firstCandidate = "/w/.mega-linter.yml" := by decide
  obtain ⟨unnamed, -, empty⟩ := documents_comment
  rw [unnamed, commentBase, ← path]
  exact loadBase_of_empty _ (path ▸ find_comment.2.1) (path ▸ empty) serving

theorem not_persists_comment :
    ¬ serving.Persists ∅ (some "/w") commentParameters commentFiles [".mega-linter.yml", "w"] := by
  rintro ⟨url, found, path, bytes, loads, -, copied, ends⟩
  obtain ⟨loadRemote, copy, loadOwn⟩ := load_comment
  obtain ⟨leafRemote, leafOwn, -⟩ := leaf_served
  obtain ⟨-, -, leads, -, primary, -⟩ := find_comment
  obtain ⟨unnamed, declared, -⟩ := documents_comment
  generalize same : Location.remote url = location at loads
  cases loads with
  | primary based =>
      rw [unnamed] at same
      cases same.trans primary
  | ancestor based loaded gathered member =>
      cases loadBase_comment.symm.trans loaded
      rw [declared] at gathered
      rcases visit_of_leaf loadRemote leafRemote gathered member with
        rfl | ⟨_, _, gathered, member⟩
      · cases same
        cases copy.symm.trans copied
        rw [leads] at ends
        exact absurd (ends.unique .free) (by decide)
      · rcases visit_of_leaf loadOwn leafOwn gathered member with rfl | ⟨_, _, gathered, member⟩
        · cases same
        · cases gathered
          cases member

theorem resolve_comment :
    ∃ config, ((serving.resolve ∅ (some "/w") commentParameters).after commentFiles).1 =
      .ok config := by
  obtain ⟨loadRemote, -, loadOwn⟩ := load_comment
  obtain ⟨leafRemote, leafOwn, -⟩ := leaf_served
  obtain ⟨-, -, -, -, -, freshRemote, freshOwn⟩ := find_comment
  have gathered := gathers_of_leaf loadRemote leafRemote freshRemote
    (gathers_of_leaf loadOwn leafOwn freshOwn (.empty _ commentCopied))
  rw [← documents_comment.2.1] at gathered
  have expanded := after_expandBase_of_gathers gathered
  rw [after_resolve_of_some (based_of_workspace rfl), Option.getD_some, loadBase_comment]
  exact ⟨_, congrArg Prod.fst expanded⟩

theorem empty_primary_masks_nothing_comment :
    namedDocument (upperLayers ∅ commentParameters) = none ∧
      commentFiles.current.Named ∧
      commentFiles.place? "/w/.mega-linter.yml" = some [".mega-linter.yml", "w"] ∧
      commentFiles.find "/w/.mega-linter.yml" =
        .ok (.taken [".mega-linter.yml", "w"] (.file (Text.bytesOf "# nothing yet\n"))) ∧
      readFile "/w/.mega-linter.yml" (Text.bytesOf "# nothing yet\n") = .ok ∅ ∧
      (∀ name ∈ otherCandidates, commentFiles.isFile (joinPath "/w" name) = false) ∧
      ¬ serving.Persists ∅ (some "/w") commentParameters commentFiles
        [".mega-linter.yml", "w"] ∧
      ∃ (document : Document) (names : List String),
        ((serving.resolve ∅ (some "/w") commentParameters).after commentFiles).1 =
          .ok ⟨document, appendLines (sourcesWithDocument "/w/.mega-linter.yml")
            (names.map ancestorLine)⟩ ∧
        ((serving.resolve ∅ (some "/w") commentParameters).after
          (commentFiles.removeFile "/w/.mega-linter.yml")).1 =
          .ok ⟨document, appendLines (sourcesWithoutDocument "/w") (names.map ancestorLine)⟩ := by
  obtain ⟨unnamed, -, empty⟩ := documents_comment
  obtain ⟨stands, found, -, others, -⟩ := find_comment
  have named : commentFiles.current.Named :=
    Place.named_nil.cons ⟨by decide, by decide, by decide, by decide⟩
  have path : joinPath "/w" firstCandidate = "/w/.mega-linter.yml" := by decide
  have masks := empty_primary_masks_nothing serving unnamed named (path ▸ stands) (path ▸ found)
    (path ▸ empty) others not_persists_comment
  rw [path] at masks
  rcases masks with ⟨error, -, failed, -⟩ | same
  · obtain ⟨config, resolved⟩ := resolve_comment
    cases resolved.symm.trans failed
  · exact ⟨unnamed, named, stands, found, empty, others, not_persists_comment, same⟩

end Loader

end LayeredConfig
