import LayeredConfig.Proofs.Extends.Gathering

/-!
# Steady loading

A remote document leaves a copy on this machine, and the copy may lie where another document was or
will be looked for.  Loading is steady while this does not happen: every location yields the same
in all visits.  What it yields is then a source of documents, to which the laws of an expansion
refer.
-/

set_option autoImplicit false

namespace LayeredConfig

/-- What every location yields. -/
abbrev Source : Type := Location → Except ConfigError (Option Document)

namespace Loader

variable {loader : Loader} {base : String} {source : Source}

def documentAt (loader : Loader) (tree : FileTree) : Source :=
  fun location =>
    ((loader.load location).after tree).1.map (Option.map LoadedDocument.document)

theorem documentAt_of_load {location : Location} {tree later : FileTree}
    {result : Except ConfigError (Option LoadedDocument)}
    (load : (loader.load location).after tree = (result, later)) :
    loader.documentAt tree location = result.map (Option.map LoadedDocument.document) := by
  rw [documentAt, load]

def Finds (loader : Loader) (source : Source) (visits : List Visit) : Prop :=
  ∀ visit ∈ visits, loader.documentAt visit.tree visit.location = source visit.location

theorem finds_cons {visit : Visit} {visits : List Visit} :
    loader.Finds source (visit :: visits) ↔
      loader.documentAt visit.tree visit.location = source visit.location ∧
        loader.Finds source visits :=
  List.forall_mem_cons

theorem finds_append {first second : List Visit} :
    loader.Finds source (first ++ second) ↔
      loader.Finds source first ∧ loader.Finds source second :=
  List.forall_mem_append

/-- All documents that are loaded for the declared names are those of the source. -/
def Steady (loader : Loader) (base : String) (chain : List String)
    (declared : Except ConfigError (List String)) (tree : FileTree) (source : Source) : Prop :=
  ∀ visits outcome final,
    loader.Gathers base chain declared tree visits outcome final → loader.Finds source visits

/-! ## Loading without network -/

def offline : Loader where
  network := .unreachable
  bodyLimit := usualBodyLimit
  temporary := "/tmp"

theorem tree_of_load_of_unreachable (offline : loader.network = .unreachable)
    {location : Location} {tree later : FileTree}
    {result : Except ConfigError (Option LoadedDocument)}
    (load : (loader.load location).after tree = (result, later)) : later = tree := by
  have left := loader.tree_of_load location tree
  rw [load] at left
  rcases left with same | ⟨url, path, bytes, -, -, fetched, -⟩
  · exact same
  · simp only [fetch, offline] at fetched
    split at fetched <;> cases fetched

theorem finds_of_unreachable (offline : loader.network = .unreachable) {chain : List String}
    {declared : Except ConfigError (List String)} {tree final : FileTree} {visits : List Visit}
    {outcome : Except ConfigError Ancestry}
    (gathered : loader.Gathers base chain declared tree visits outcome final) :
    final = tree ∧ loader.Finds (loader.documentAt tree) visits := by
  induction gathered with
  | malformed chain error tree => exact ⟨rfl, by simp [Finds]⟩
  | empty chain tree => exact ⟨rfl, by simp [Finds]⟩
  | cyclic known => exact ⟨rfl, by simp [Finds]⟩
  | refused fresh load => exact ⟨tree_of_load_of_unreachable offline load, by simp [Finds]⟩
  | missing fresh load => exact ⟨tree_of_load_of_unreachable offline load, by simp [Finds]⟩
  | above fresh load inner ih =>
      obtain rfl := tree_of_load_of_unreachable offline load
      exact ⟨ih.1, finds_cons.mpr ⟨rfl, ih.2⟩⟩
  | ancestor fresh load inner rest ihInner ihRest =>
      obtain rfl := tree_of_load_of_unreachable offline load
      obtain ⟨rfl, findsInner⟩ := ihInner
      obtain ⟨rfl, findsRest⟩ := ihRest
      exact ⟨rfl, finds_cons.mpr ⟨rfl, finds_append.mpr ⟨findsInner, findsRest⟩⟩⟩

theorem steady_of_unreachable (offline : loader.network = .unreachable) {chain : List String}
    {declared : Except ConfigError (List String)} {tree : FileTree} :
    loader.Steady base chain declared tree (loader.documentAt tree) :=
  fun _ _ _ gathered => (finds_of_unreachable offline gathered).2

def diamondFiles : FileTree where
  entries :=
    [(["w"], .directory),
      (["left.yml", "w"], .file (Text.bytesOf "EXTENDS: top.yml\nA: left\n")),
      (["right.yml", "w"], .file (Text.bytesOf "EXTENDS: top.yml\nB: right\n")),
      (["top.yml", "w"], .file (Text.bytesOf "A: top\nB: top\nC: top\n"))]
  current := []

def diamondDocument : Document :=
  Mapping.ofList [("EXTENDS", .text "left.yml, right.yml"), ("D", .text "bottom")]

/-- The document at the top lies over the left one here, as it is an ancestor of the right one. -/
def diamondExpansion : Expansion where
  document := Mapping.ofList
    [("A", .text "top"), ("B", .text "right"), ("C", .text "top"), ("D", .text "bottom"),
      ("EXTENDS", .text "left.yml, right.yml")]
  ancestors := ["left.yml", "top.yml", "right.yml", "top.yml"]

theorem expand_diamond :
    ((offline.expand "/w" diamondDocument none).after diamondFiles).1 = .ok diamondExpansion := by
  decide +kernel

end Loader

end LayeredConfig
