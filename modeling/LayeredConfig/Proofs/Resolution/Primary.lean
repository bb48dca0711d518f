import LayeredConfig.Proofs.Files.NoFile
import LayeredConfig.Proofs.Resolution.Consultation
import LayeredConfig.Proofs.Resolution.Layers

/-!
# The primary document

A resolution rests on one document or on none, and never falls back.  A document that is named is
loaded from the place that its name stands for, or the resolution fails; no conventional file takes
its place, whatever is in it.  Where none is named, the first conventional file is loaded, and an
error in it is not made good by the next one.  Only without a named document, and without a
conventional file, are the environment and the parameters all there is.
-/

set_option autoImplicit false

namespace LayeredConfig

open Files

theorem namedDocument_upperLayers (environment : Environment) (parameters : Document) :
    namedDocument (upperLayers environment parameters) =
      ((parameters.get? documentKey).or
        ((environment.get? documentKey).map Value.text)).map Value.envText := by
  rw [namedDocument, get?_upperLayers]

/-- A text with the scheme of an address in front. -/
def NamesAddress (text : String) : Prop :=
  "http://".toList <+: text.toList ∨ "https://".toList <+: text.toList

theorem isRemote_iff {text : String} : isRemote text = true ↔ NamesAddress text := by
  rw [isRemote, Bool.or_eq_true, List.isPrefixOf_iff_prefix, List.isPrefixOf_iff_prefix,
    NamesAddress]

theorem locate_of_namesAddress {text : String} (address : NamesAddress text) (base : String) :
    locate base text = .remote text :=
  if_pos (isRemote_iff.mpr address)

theorem locate_of_not_namesAddress {text : String} (onMachine : ¬ NamesAddress text)
    (base : String) :
    locate base text = .file (joinPath base text) :=
  if_neg fun remote => onMachine (isRemote_iff.mp remote)

theorem locate_empty (base : String) : locate base "" = .file (joinPath base "") := by
  apply locate_of_not_namesAddress
  unfold NamesAddress
  decide

/-! ## The conventional file -/

section Discover

variable {tree : FileTree} {directory : String}

theorem discover_of_first {name : String} {before after : List String}
    (listed : candidates = before ++ name :: after)
    (passed : ∀ earlier ∈ before, tree.isFile (joinPath directory earlier) = false)
    (isFile : tree.isFile (joinPath directory name) = true) :
    discover tree directory = .file (joinPath directory name) := by
  have found : candidates.find? (tree.isFile ∘ joinPath directory) = some name := by
    rw [List.find?_eq_some_iff_append]
    refine ⟨isFile, before, after, listed, ?_⟩
    intro earlier member
    rw [Function.comp_apply, passed earlier member]
    rfl
  simp only [discover, List.find?_map, found, Option.map_some, Option.getD_some]

theorem discover_of_none
    (absent : ∀ name ∈ candidates, tree.isFile (joinPath directory name) = false) :
    discover tree directory = .file (joinPath directory firstCandidate) := by
  have missed : candidates.find? (tree.isFile ∘ joinPath directory) = none := by
    rw [List.find?_eq_none]
    intro name member
    rw [Function.comp_apply, absent name member]
    exact Bool.false_ne_true
  simp only [discover, List.find?_map, missed, Option.map_none, Option.getD_none]

/-- Among the candidates there is a first one that is a file, or none of them is one. -/
theorem exists_first_or_none (tree : FileTree) (directory : String) :
    (∃ before name after, candidates = before ++ name :: after ∧
        (∀ earlier ∈ before, tree.isFile (joinPath directory earlier) = false) ∧
        tree.isFile (joinPath directory name) = true) ∨
      ∀ name ∈ candidates, tree.isFile (joinPath directory name) = false := by
  cases found : candidates.find? (tree.isFile ∘ joinPath directory) with
  | none =>
      right
      intro name member
      exact Bool.not_eq_true _ ▸ List.find?_eq_none.mp found name member
  | some name =>
      left
      obtain ⟨isFile, before, after, listed, passed⟩ := List.find?_eq_some_iff_append.mp found
      refine ⟨before, name, after, listed, ?_, isFile⟩
      intro earlier member
      exact Bool.not_eq_true' _ ▸ passed earlier member

end Discover

namespace Loader

variable {loader : Loader} {environment : Environment} {workspace : Option String}
  {parameters : Document} {tree : FileTree}

/-! ## Locations that hold a document -/

/-- A location holds a document: in a file that can be read, or at an address that serves it. -/
inductive Holds (loader : Loader) (tree : FileTree) : Location → Document → Prop where
  | file {path : String} {bytes : List UInt8} {document : Document}
      (isFile : tree.isFile path = true) (read : tree.read path = .ok bytes)
      (parsed : documentIn? bytes = some document) : Holds loader tree (.file path) document
  | remote {url : String} {bytes : List UInt8} {document : Document}
      (fetched : loader.fetch url = .ok bytes) (parsed : documentIn? bytes = some document) :
      Holds loader tree (.remote url) document

theorem holds_of_load {location : Location} {loaded : LoadedDocument} {later : FileTree}
    (load : (loader.load location).after tree = (.ok (some loaded), later)) :
    loader.Holds tree location loaded.document := by
  rcases source_of_load (congrArg Prod.fst load) with
    ⟨path, bytes, rfl, isFile, read, parsed⟩ | ⟨url, bytes, rfl, fetched, parsed⟩
  · exact .file isFile read (documentIn?_of_readFile parsed)
  · exact .remote fetched (documentIn?_of_readRemote parsed)

theorem after_load_of_not_isFile {path : String} (absent : tree.isFile path = false)
    (loader : Loader) : (loader.load (.file path)).after tree = (.ok none, tree) := by
  rw [after_load_file, after_loadFile, if_neg (by rw [absent]; exact Bool.false_ne_true)]

theorem load_ne_none_of_isFile {path : String} (isFile : tree.isFile path = true)
    (loader : Loader) : ((loader.load (.file path)).after tree).1 ≠ .ok none := by
  rw [after_load_file, after_loadFile, if_pos isFile]
  cases tree.read path with
  | error fault => exact fun none => by cases none
  | ok bytes =>
      cases parsed : readFile path bytes with
      | error error => exact fun none => by simp [parsed, Except.map] at none
      | ok document => exact fun none => by simp [parsed, Except.map] at none

/-! ## What a resolution rests on -/

/-- A resolution rests on a document: it fails where loading the document fails and where there is
none, and otherwise goes on from this document. -/
structure RestsOn (loader : Loader) (environment : Environment) (workspace : Option String)
    (parameters : Document) (tree : FileTree) (location : Location) : Prop where
  refused : ∀ error later, (loader.load location).after tree = (.error error, later) →
    (loader.resolve environment workspace parameters).after tree = (.error error, later)
  missing : ∀ later, (loader.load location).after tree = (.ok none, later) →
    (loader.resolve environment workspace parameters).after tree =
      (.error (.notFound location.display), later)
  found : ∀ loaded later, (loader.load location).after tree = (.ok (some loaded), later) →
    (loader.resolve environment workspace parameters).after tree =
      (loader.expandBase (workspace.getD defaultWorkspace)
        ⟨loaded.document.merge (upperLayers environment parameters), some location,
          sourcesWithDocument loaded.path⟩).after later

theorem based_of_named {name : String}
    (named : namedDocument (upperLayers environment parameters) = some name) :
    ¬ (workspace = none ∧ namedDocument (upperLayers environment parameters) = none) := by
  rintro ⟨-, unnamed⟩
  rw [named] at unnamed
  cases unnamed

theorem based_of_workspace {directory : String} (given : workspace = some directory) :
    ¬ (workspace = none ∧ namedDocument (upperLayers environment parameters) = none) := by
  rintro ⟨absent, -⟩
  rw [given] at absent
  cases absent

/-- A resolution rests on its primary location, unless no document is named and none is there. -/
theorem restsOn_primaryLocation
    (based : ¬ (workspace = none ∧ namedDocument (upperLayers environment parameters) = none))
    (there : namedDocument (upperLayers environment parameters) = none →
      ((loader.load (primaryLocation tree (workspace.getD defaultWorkspace) none)).after tree).1 ≠
        .ok none) :
    loader.RestsOn environment workspace parameters tree
      (primaryLocation tree (workspace.getD defaultWorkspace)
        (namedDocument (upperLayers environment parameters))) := by
  refine ⟨?_, ?_, ?_⟩
  · intro error later load
    rw [after_resolve_of_some based, after_loadBase, load]
  · intro later load
    rw [after_resolve_of_some based, after_loadBase, load]
    cases named : namedDocument (upperLayers environment parameters) with
    | some name => rfl
    | none =>
        rw [named] at load
        exact absurd (congrArg Prod.fst load) (there named)
  · intro loaded later load
    rw [after_resolve_of_some based, after_loadBase, load]

theorem restsOn_of_named {name : String}
    (named : namedDocument (upperLayers environment parameters) = some name) (loader : Loader)
    (tree : FileTree) :
    loader.RestsOn environment workspace parameters tree
      (locate (workspace.getD defaultWorkspace) name) := by
  have rests : loader.RestsOn environment workspace parameters tree _ :=
    restsOn_primaryLocation (based_of_named named) fun unnamed => by
      rw [named] at unnamed
      cases unnamed
  rw [named] at rests
  exact rests

theorem restsOn_of_first {directory name : String} {before after : List String}
    (unnamed : namedDocument (upperLayers environment parameters) = none)
    (given : workspace = some directory) (listed : candidates = before ++ name :: after)
    (passed : ∀ earlier ∈ before, tree.isFile (joinPath directory earlier) = false)
    (isFile : tree.isFile (joinPath directory name) = true) (loader : Loader) :
    loader.RestsOn environment workspace parameters tree (.file (joinPath directory name)) := by
  have first : primaryLocation tree (workspace.getD defaultWorkspace) none =
      .file (joinPath directory name) := by
    rw [given, Option.getD_some, primaryLocation, discover_of_first listed passed isFile]
  have rests : loader.RestsOn environment workspace parameters tree _ :=
    restsOn_primaryLocation (based_of_workspace given) fun _ => by
      rw [first]
      exact load_ne_none_of_isFile isFile loader
  rw [unnamed, first] at rests
  exact rests

/-- Where no conventional file is, a run goes on from the environment and the parameters. -/
theorem after_resolve_of_no_candidate {directory : String}
    (unnamed : namedDocument (upperLayers environment parameters) = none)
    (absent : ∀ name ∈ candidates, tree.isFile (joinPath directory name) = false)
    (loader : Loader) :
    (loader.resolve environment (some directory) parameters).after tree =
      (loader.expandBase directory
        ⟨upperLayers environment parameters, none, sourcesWithoutDocument directory⟩).after
        tree := by
  have based : ¬ (some directory = none ∧
      namedDocument (upperLayers environment parameters) = none) := based_of_workspace rfl
  have load := after_load_of_not_isFile (absent firstCandidate (List.mem_cons_self ..)) loader
  rw [after_resolve_of_some based, after_loadBase, unnamed, primaryLocation, Option.getD_some,
    discover_of_none absent, load]

/-- A name that is empty names a directory, and there is no document in a directory. -/
theorem after_resolve_of_unspecified
    (named : namedDocument (upperLayers environment parameters) = some "") (loader : Loader)
    (tree : FileTree) :
    (loader.resolve environment workspace parameters).after tree =
      (.error (.notFound (joinPath (workspace.getD defaultWorkspace) "")), tree) := by
  have rests : loader.RestsOn environment workspace parameters tree _ :=
    restsOn_of_named named loader tree
  rw [locate_empty] at rests
  exact rests.missing tree
    (after_load_of_not_isFile (FileTree.isFile_joinPath_empty _) loader)

/-- A resolution with a named document consults this document and the items of what is extended;
no conventional file is among them unless one of these names leads there. -/
theorem consults_of_named {name : String}
    (named : namedDocument (upperLayers environment parameters) = some name)
    {location : Location} {found : FileTree}
    (consulted : loader.Consults environment workspace parameters tree location found) :
    location = locate (workspace.getD defaultWorkspace) name ∧ found = tree ∨
      ∃ loaded later,
        (loader.load (locate (workspace.getD defaultWorkspace) name)).after tree =
          (.ok (some loaded), later) ∧
        loader.Meets (workspace.getD defaultWorkspace)
          [(locate (workspace.getD defaultWorkspace) name).identity later]
          (Document.ancestors (loaded.document.merge (upperLayers environment parameters))) later
          location found := by
  cases consulted with
  | candidate unnamed given listed passed =>
      rw [named] at unnamed
      cases unnamed
  | primary based =>
      left
      rw [named]
      exact ⟨rfl, rfl⟩
  | item based loadedBase met =>
      right
      rw [named, after_loadBase, primaryLocation] at loadedBase
      rcases load : (loader.load (locate (workspace.getD defaultWorkspace) name)).after tree with
        ⟨error | _ | loaded, later⟩
      · rw [load] at loadedBase
        cases loadedBase
      · rw [load] at loadedBase
        cases loadedBase
      · rw [load] at loadedBase
        cases loadedBase
        exact ⟨loaded, _, rfl, met⟩

/-! ## The sources -/

/-- No document is named, and there is no workspace or no conventional file in it. -/
structure Undocumented (environment : Environment) (workspace : Option String)
    (parameters : Document) (tree : FileTree) : Prop where
  unnamed : namedDocument (upperLayers environment parameters) = none
  absent : ∀ directory, workspace = some directory →
    ∀ name ∈ candidates, tree.isFile (joinPath directory name) = false

def sourcesOfUndocumented : Option String → String
  | none => sourcesWithoutWorkspace
  | some directory => sourcesWithoutDocument directory

theorem prefix_appendLines (sources : String) (lines : List String) :
    sources.toList <+: (appendLines sources lines).toList := by
  induction lines generalizing sources with
  | nil => exact List.prefix_rfl
  | cons line lines ih =>
      have here : sources.toList <+: (sources ++ "\n" ++ line).toList := by
        rw [String.append_assoc, String.toList_append]
        exact List.prefix_append ..
      exact here.trans (ih _)

theorem prefix_sourcesOfUndocumented (workspace : Option String) :
    "Environment variables only".toList <+: (sourcesOfUndocumented workspace).toList := by
  cases workspace with
  | none => exact List.isPrefixOf_iff_prefix.mp (by decide)
  | some directory =>
      have opening : "Environment variables only".toList <+:
          "Environment variables only (no config file found in ".toList :=
        List.isPrefixOf_iff_prefix.mp (by decide)
      have split : sourcesWithoutDocument directory =
          "Environment variables only (no config file found in " ++ (directory ++ ")") :=
        String.append_assoc ..
      refine opening.trans ?_
      rw [sourcesOfUndocumented, split, String.toList_append]
      exact List.prefix_append ..

theorem sources_of_expandBase {directory : String} {base : Base} {run : RunConfig}
    {later : FileTree}
    (expanded : (loader.expandBase directory base).after tree = (.ok run, later)) :
    ∃ lines, run.sources = appendLines base.sources lines := by
  cases extending : base.document.contains extendsKey with
  | false =>
      rw [after_expandBase_of_not_contains extending] at expanded
      cases expanded
      exact ⟨[], rfl⟩
  | true =>
      rw [after_expandBase_of_contains extending] at expanded
      rcases expansion : (loader.expand directory base.document base.origin).after tree with
        ⟨error | expansion, final⟩
      · rw [expansion] at expanded
        cases expanded
      · rw [expansion] at expanded
        cases expanded
        exact ⟨_, rfl⟩

/-- A resolution that rests on a document succeeds only where this document is loaded. -/
theorem RestsOn.loaded {location : Location} {run : RunConfig} {later : FileTree}
    (rests : loader.RestsOn environment workspace parameters tree location)
    (resolved : (loader.resolve environment workspace parameters).after tree = (.ok run, later)) :
    ∃ loaded middle lines,
      (loader.load location).after tree = (.ok (some loaded), middle) ∧
      run.sources = appendLines (sourcesWithDocument loaded.path) lines := by
  rcases load : (loader.load location).after tree with ⟨error | _ | loaded, middle⟩
  · rw [rests.refused error middle load] at resolved
    cases resolved
  · rw [rests.missing middle load] at resolved
    cases resolved
  · rw [rests.found loaded middle load] at resolved
    obtain ⟨lines, sources⟩ := sources_of_expandBase resolved
    exact ⟨loaded, middle, lines, rfl, sources⟩

theorem RestsOn.fails {location : Location}
    (rests : loader.RestsOn environment workspace parameters tree location)
    (absent : ∀ document, ¬ loader.Holds tree location document) :
    ∃ error, ((loader.resolve environment workspace parameters).after tree).1 = .error error := by
  rcases resolved : (loader.resolve environment workspace parameters).after tree with
    ⟨error | run, later⟩
  · exact ⟨error, rfl⟩
  · obtain ⟨loaded, middle, lines, load, -⟩ := rests.loaded resolved
    exact absurd (holds_of_load load) (absent loaded.document)

/-- The sources of a run open with the document that it rests on, or say that there is none. -/
theorem sources_of_resolve {run : RunConfig} {later : FileTree}
    (resolved : (loader.resolve environment workspace parameters).after tree = (.ok run, later)) :
    ∃ lines,
      (Undocumented environment workspace parameters tree ∧
          run.sources = appendLines (sourcesOfUndocumented workspace) lines) ∨
        ¬ Undocumented environment workspace parameters tree ∧
          ∃ loaded middle,
            (loader.load (primaryLocation tree (workspace.getD defaultWorkspace)
              (namedDocument (upperLayers environment parameters)))).after tree =
                (.ok (some loaded), middle) ∧
            run.sources = appendLines (sourcesWithDocument loaded.path) lines := by
  cases named : namedDocument (upperLayers environment parameters) with
  | some name =>
      have documented : ¬ Undocumented environment workspace parameters tree := by
        intro undocumented
        have unnamed := undocumented.unnamed
        rw [named] at unnamed
        cases unnamed
      have rests : loader.RestsOn environment workspace parameters tree _ :=
        restsOn_of_named named loader tree
      obtain ⟨loaded, middle, lines, load, sources⟩ := rests.loaded resolved
      exact ⟨lines, .inr ⟨documented, loaded, middle, load, sources⟩⟩
  | none =>
      cases workspace with
      | none =>
          rw [after_resolve_of_none named] at resolved
          cases resolved
          exact ⟨[], .inl ⟨⟨named, fun directory given => by cases given⟩, rfl⟩⟩
      | some directory =>
          rw [Option.getD_some, primaryLocation]
          rcases exists_first_or_none tree directory with
            ⟨before, name, after, listed, passed, isFile⟩ | absent
          · have documented : ¬ Undocumented environment (some directory) parameters tree := by
              intro undocumented
              have member : name ∈ candidates := by simp [listed]
              rw [undocumented.absent directory rfl name member] at isFile
              cases isFile
            have rests := restsOn_of_first named rfl listed passed isFile loader
            rw [discover_of_first listed passed isFile]
            obtain ⟨loaded, middle, lines, load, sources⟩ := rests.loaded resolved
            exact ⟨lines, .inr ⟨documented, loaded, middle, load, sources⟩⟩
          · rw [after_resolve_of_no_candidate named absent] at resolved
            obtain ⟨lines, sources⟩ := sources_of_expandBase resolved
            refine ⟨lines, .inl ⟨⟨named, ?_⟩, sources⟩⟩
            intro other same
            obtain rfl := Option.some.inj same
            exact absent

/-! ## No fallback -/

/-- What a resolution rests on, whether a document is named or not, and what its sources say. -/
structure NoFallback (loader : Loader) (environment : Environment) (workspace : Option String)
    (parameters : Document) (tree : FileTree) : Prop where
  /-- The name stands in the parameters or else in the environment. -/
  name : namedDocument (upperLayers environment parameters) =
    ((parameters.get? documentKey).or
      ((environment.get? documentKey).map Value.text)).map Value.envText
  namedAddress : ∀ name, namedDocument (upperLayers environment parameters) = some name →
    NamesAddress name → loader.RestsOn environment workspace parameters tree (.remote name)
  namedFile : ∀ name, namedDocument (upperLayers environment parameters) = some name →
    ¬ NamesAddress name → loader.RestsOn environment workspace parameters tree
      (.file (joinPath (workspace.getD defaultWorkspace) name))
  /-- A named document that is missing, no regular file, not served or no document is an error. -/
  fails : ∀ name, namedDocument (upperLayers environment parameters) = some name →
    (∀ document, ¬ loader.Holds tree (locate (workspace.getD defaultWorkspace) name) document) →
      ∃ error, ((loader.resolve environment workspace parameters).after tree).1 = .error error
  unspecified : ∀ value, (upperLayers environment parameters).get? documentKey = some value →
    value = .null ∨ value = .text "" →
      (loader.resolve environment workspace parameters).after tree =
        (.error (.notFound (joinPath (workspace.getD defaultWorkspace) "")), tree)
  /-- Whatever else is in the tree, conventional files included, a named document and what is
  extended come to the same. -/
  apart : ∀ name, namedDocument (upperLayers environment parameters) = some name →
    ∀ places other, tree.DiffersAt places other.TakesFile other →
      (locate (workspace.getD defaultWorkspace) name).Spares loader places other.TakesFile tree →
      (∀ loaded later,
        (loader.load (locate (workspace.getD defaultWorkspace) name)).after tree =
          (.ok (some loaded), later) →
        ∀ location found,
          loader.Meets (workspace.getD defaultWorkspace)
            [(locate (workspace.getD defaultWorkspace) name).identity later]
            (Document.ancestors (loaded.document.merge (upperLayers environment parameters)))
            later location found →
          location.Spares loader places other.TakesFile found) →
      ((loader.resolve environment workspace parameters).after other).1 =
        ((loader.resolve environment workspace parameters).after tree).1
  regular : ∀ path, tree.isFile path = true ↔
    ∃ place bytes, tree.find path = .ok (.taken place (.file bytes))
  /-- The first candidate that is a regular file is the primary document, with all its errors. -/
  first : ∀ directory before name after,
    namedDocument (upperLayers environment parameters) = none → workspace = some directory →
    candidates = before ++ name :: after →
    (∀ earlier ∈ before, tree.isFile (joinPath directory earlier) = false) →
    tree.isFile (joinPath directory name) = true →
      loader.RestsOn environment workspace parameters tree (.file (joinPath directory name)) ∧
        ((loader.load (.file (joinPath directory name))).after tree).1 ≠ .ok none
  noCandidate : ∀ directory,
    namedDocument (upperLayers environment parameters) = none → workspace = some directory →
    (∀ name ∈ candidates, tree.isFile (joinPath directory name) = false) →
      (loader.resolve environment workspace parameters).after tree =
        (loader.expandBase directory
          ⟨upperLayers environment parameters, none, sourcesWithoutDocument directory⟩).after tree
  bare : namedDocument (upperLayers environment parameters) = none → workspace = none →
    (loader.resolve environment workspace parameters).after tree =
      (.ok ⟨upperLayers environment parameters, sourcesWithoutWorkspace⟩, tree)
  /-- The sources open with the primary document, unless none is named and none is there. -/
  sources : ∀ run later,
    (loader.resolve environment workspace parameters).after tree = (.ok run, later) →
      ∃ lines,
        (Undocumented environment workspace parameters tree ∧
            run.sources = appendLines (sourcesOfUndocumented workspace) lines ∧
            "Environment variables only".toList <+: run.sources.toList) ∨
          ¬ Undocumented environment workspace parameters tree ∧
            ∃ loaded middle,
              (loader.load (primaryLocation tree (workspace.getD defaultWorkspace)
                (namedDocument (upperLayers environment parameters)))).after tree =
                  (.ok (some loaded), middle) ∧
              run.sources = appendLines (sourcesWithDocument loaded.path) lines

/-- A resolution never falls back: on a conventional file where a document is named, on a later
candidate where an earlier one is a file, on the environment where there is a document. -/
theorem noFallback (loader : Loader) (environment : Environment) (workspace : Option String)
    (parameters : Document) (tree : FileTree) :
    loader.NoFallback environment workspace parameters tree where
  name := namedDocument_upperLayers environment parameters
  namedAddress name named address := by
    rw [← locate_of_namesAddress address (workspace.getD defaultWorkspace)]
    exact restsOn_of_named named loader tree
  namedFile name named onMachine := by
    rw [← locate_of_not_namesAddress onMachine]
    exact restsOn_of_named named loader tree
  fails name named absent := (restsOn_of_named named loader tree).fails absent
  unspecified value specified empty := by
    apply after_resolve_of_unspecified
    rw [namedDocument, specified]
    rcases empty with rfl | rfl <;> rfl
  apart name named places other differs sparesPrimary sparesItems := by
    have spares : ∀ location found,
        loader.Consults environment workspace parameters tree location found →
          location.Spares loader places other.TakesFile found := by
      intro location found consulted
      rcases consults_of_named named consulted with ⟨rfl, rfl⟩ | ⟨loaded, later, load, met⟩
      · exact sparesPrimary
      · exact sparesItems loaded later load location found met
    obtain ⟨result, later, last, resolved, resolvedToo, -⟩ :=
      after_resolve_of_spares differs spares
    rw [resolved, resolvedToo]
  regular path := FileTree.isFile_iff
  first directory before name after unnamed given listed passed isFile :=
    ⟨restsOn_of_first unnamed given listed passed isFile loader,
      load_ne_none_of_isFile isFile loader⟩
  noCandidate directory unnamed given absent := by
    subst given
    exact after_resolve_of_no_candidate unnamed absent loader
  bare unnamed given := by
    subst given
    exact after_resolve_of_none unnamed loader tree
  sources run later resolved := by
    obtain ⟨lines, ⟨undocumented, same⟩ | documented⟩ := sources_of_resolve resolved
    · refine ⟨lines, .inl ⟨undocumented, same, ?_⟩⟩
      rw [same]
      exact (prefix_sourcesOfUndocumented workspace).trans (prefix_appendLines _ lines)
    · exact ⟨lines, .inr documented⟩

def customEnvironment : Environment := Mapping.ofList [(documentKey, "custom.yml")]

/-- A workspace with a document that can be named. -/
def customFiles : FileTree where
  entries :=
    [(["w"], .directory),
      (["custom.yml", "w"], .file (Text.bytesOf "EXTENDS: top.yml\nA: custom\n")),
      (["top.yml", "w"], .file (Text.bytesOf "B: top\n"))]
  current := []

/-- The same workspace with a conventional file. -/
def customFilesBeside : FileTree :=
  customFiles.setEntry [".mega-linter.yml", "w"] (.file (Text.bytesOf "A: conventional\n"))

/-- A conventional file beside a named document makes no difference. -/
theorem noFallback_custom :
    namedDocument (upperLayers customEnvironment ∅) = some "custom.yml" ∧
      ((offline.resolve customEnvironment (some "/w") ∅).after customFilesBeside).1 =
        ((offline.resolve customEnvironment (some "/w") ∅).after customFiles).1 := by
  have named : namedDocument (upperLayers customEnvironment ∅) = some "custom.yml" := by
    decide +kernel
  have conventional : [".mega-linter.yml", "w"] ≠ ([] : Place) := by decide
  have differs : customFiles.DiffersAt (· = [".mega-linter.yml", "w"])
      customFilesBeside.TakesFile customFilesBeside := by
    refine ⟨rfl, ?_, fun place takes => takes⟩
    intro place apart
    rw [customFilesBeside, FileTree.entry?_setEntry _ conventional, if_neg apart]
  have beside : ∀ name, ¬ NamesAddress name →
      (∀ place ∈ customFiles.placesOn (joinPath "/w" name), place ≠ [".mega-linter.yml", "w"]) →
        (locate "/w" name).Spares offline (· = [".mega-linter.yml", "w"])
          customFilesBeside.TakesFile customFiles := by
    intro name onMachine apart
    rw [locate_of_not_namesAddress onMachine]
    exact apart
  have spares := beside "custom.yml" (by unfold NamesAddress; decide) (by decide +kernel)
  have sparesTop := beside "top.yml" (by unfold NamesAddress; decide) (by decide +kernel)
  have load : (offline.load (locate "/w" "custom.yml")).after customFiles =
      (.ok (some ⟨"/w/custom.yml", Mapping.ofList [("A", .text "custom"),
        ("EXTENDS", .text "top.yml")]⟩), customFiles) := by
    decide +kernel
  have loadTop : (offline.load (locate "/w" "top.yml")).after customFiles =
      (.ok (some ⟨"/w/top.yml", Mapping.ofList [("B", .text "top")]⟩), customFiles) := by
    decide +kernel
  have extending : Document.ancestors (Mapping.merge (Mapping.ofList [("A", .text "custom"),
      ("EXTENDS", .text "top.yml")]) (upperLayers customEnvironment ∅)) = .ok ["top.yml"] := by
    decide +kernel
  have extendsNothing : Document.ancestors (Mapping.ofList [("B", .text "top")]) = .ok [] := by
    decide +kernel
  refine ⟨named, (noFallback offline customEnvironment (some "/w") ∅ customFiles).apart _ named _ _
    differs spares ?_⟩
  intro loaded later loadedHere location found met
  rw [Option.getD_some, load] at loadedHere
  cases loadedHere
  rw [extending] at met
  cases met with
  | here => exact sparesTop
  | above fresh loadedTop inner =>
      rw [Option.getD_some, loadTop] at loadedTop
      cases loadedTop
      rw [extendsNothing] at inner
      cases inner
  | beside fresh loadedTop gathered rest => cases rest

end Loader

end LayeredConfig
